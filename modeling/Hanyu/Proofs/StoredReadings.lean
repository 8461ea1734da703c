import Hanyu.Proofs.Resolution
import Hanyu.Proofs.Spelling

/-!
# Stored readings

A lexicon stores the readings of a character as texts with a tone digit at the end. A pronouncer
that works with it answers twice with the same readings, in a style and with tone digits, so that
the two tables are aligned. The tone of a character is read from its first numeric candidate, which
is itself a reading that was read and written.

* `Tone.ofSyllable?_render_tone3`: the tone that is read from the numeric form of any text.
* `Lexicon.Aligned`: a reading has the stored readings of all characters in their places.
* `Lexicon.aligned_reading`: a lexicon gives every surface such a reading.
-/

namespace Hanyu

variable {σ : Type}

/-! ## Tones of numeric forms -/

namespace Tone

variable {text before : Text} {c : Char} {t u : Tone}

/-- A text ends in a tone digit, after which another digit can stand that is no tone. -/
inductive Ends (text : Text) (t : Tone) : Prop where
  | digit (before : Text) (h : text = before ++ [t.digit])
  | ignored (before : Text) (c : Char) (hd : c.isDigit = true) (hc : ofDigit? c = none)
      (h : text = before ++ [t.digit] ++ [c])

theorem ends_append_digit : Ends (before ++ [u.digit]) t ↔ u = t := by
  constructor
  · rintro (⟨_, h⟩ | ⟨_, c, -, hc, h⟩)
    · exact digit_injective (List.singleton_inj.mp (List.append_inj_right' h rfl))
    · obtain rfl := List.singleton_inj.mp (List.append_inj_right' h rfl)
      rw [ofDigit?_digit] at hc
      cases hc
  · rintro rfl
    exact .digit before rfl

theorem ends_append_ignored (hd : c.isDigit = true) (hc : ofDigit? c = none) :
    Ends (before ++ [c]) t ↔ before.getLast? = some t.digit := by
  rw [List.getLast?_eq_some_iff]
  constructor
  · rintro (⟨_, h⟩ | ⟨before', d, -, -, h⟩)
    · obtain rfl := List.singleton_inj.mp (List.append_inj_right' h rfl)
      rw [ofDigit?_digit] at hc
      cases hc
    · exact ⟨before', List.append_inj_left' h rfl⟩
  · rintro ⟨before', rfl⟩
    exact .ignored before' c hd hc rfl

theorem Ends.exists_isDigit (h : Ends text t) : ∃ c, text.getLast? = some c ∧ c.isDigit = true := by
  cases h with
  | digit before h => exact ⟨_, by rw [h, List.getLast?_concat], t.isDigit_digit⟩
  | ignored before c hd _ h => exact ⟨c, by rw [h, List.getLast?_concat], hd⟩

/-- Without a digit before its end a text ends in a tone digit only at the very end. -/
theorem ends_iff_getLast? (h : ∀ c ∈ text.dropLast, c.isDigit = false) :
    Ends text t ↔ text.getLast? = some t.digit := by
  rw [List.getLast?_eq_some_iff]
  constructor
  · rintro (⟨before, hb⟩ | ⟨before, c, -, -, rfl⟩)
    · exact ⟨before, hb⟩
    · have hdigit := h t.digit (by simp)
      rw [t.isDigit_digit] at hdigit
      cases hdigit
  · rintro ⟨before, rfl⟩
    exact .digit before rfl

theorem ofSyllable?_append_digit (letters : Text) :
    ofSyllable? (letters ++ [u.digit]) = some t ↔
      (∀ c ∈ letters, Unicode.isBlank c = false) ∧ u = t := by
  rw [ofSyllable?_eq_some]
  simp only [List.mem_append, List.mem_singleton, or_imp, forall_and, forall_eq,
    Unicode.isBlank_of_isDigit u.isDigit_digit, and_true]
  refine and_congr_right fun _ => ⟨?_, ?_⟩
  · rintro ⟨before, h⟩
    exact digit_injective (List.singleton_inj.mp (List.append_inj_right' h rfl))
  · rintro rfl
    exact ⟨letters, rfl⟩

/-- Letters without a tone have one only when the text that they are spelled for ends in it. -/
theorem ofSyllable?_spelled (text : Text) :
    ofSyllable? (Syllable.spellUmlaut (Unicode.lowercase text)) = some t ↔
      (∀ c ∈ text, Unicode.isBlank c = false) ∧ text.getLast? = some t.digit := by
  rw [ofSyllable?_eq_some, Syllable.isBlank_spelled_iff, ← List.getLast?_eq_some_iff,
    Syllable.getLast?_spelled_iff t.isDigit_digit]

/-- The tone of the numeric form of a text is that of the digit at the end of the trimmed text. A
digit that is no tone is left out, and one before it is read instead. -/
theorem ofSyllable?_render_tone3 (text : Text) :
    ofSyllable? (Style.tone3.render text) = some t ↔
      (∀ c ∈ text.trim, Unicode.isBlank c = false) ∧ Ends text.trim t := by
  by_cases h : ∃ c, text.trim.getLast? = some c ∧ c.isDigit = true
  · obtain ⟨c, hl, hd⟩ := h
    obtain ⟨before, hb⟩ := List.getLast?_eq_some_iff.mp hl
    have hblank : (∀ c ∈ text.trim, Unicode.isBlank c = false) ↔
        ∀ c ∈ before, Unicode.isBlank c = false := by
      rw [hb]
      simp [or_imp, forall_and, Unicode.isBlank_of_isDigit hd]
    rw [Style.render, Syllable.ofText_of_isDigit hb hd, hblank, hb]
    cases hc : ofDigit? c with
    | some u =>
      obtain rfl := ofDigit?_eq_some_iff.mp hc
      rw [Style.write, Style.withFinalDigit, ofSyllable?_append_digit, Syllable.isBlank_spelled_iff,
        ends_append_digit]
    | none =>
      rw [Style.write, Style.withFinalDigit, ofSyllable?_spelled, ends_append_ignored hd hc]
  · have hlast : ∀ c, text.trim.getLast? = some c → c.isDigit = false := fun c hc =>
      Bool.eq_false_iff.mpr fun hd => h ⟨c, hc, hd⟩
    rw [Style.render, Syllable.ofText_of_not_isDigit hlast, Style.write, Style.withFinalDigit,
      ofSyllable?_spelled]
    refine and_congr_right fun _ => iff_of_false (fun hl => ?_) fun he => h he.exists_isDigit
    exact h ⟨_, hl, t.isDigit_digit⟩

/-- The `7` is no tone, and the `1` is read in its place. -/
example : ofSyllable? (Style.tone3.render "a17".toList) = some .first := by decide +kernel

end Tone

/-! ## Tables of stored readings -/

/-- Trimmed, the text has no blanks, and no digit but one at its end. -/
structure Text.IsNumeric (text : Text) : Prop where
  blanks : ∀ c ∈ text.trim, Unicode.isBlank c = false
  digits : ∀ c ∈ text.trim.dropLast, c.isDigit = false

namespace Lexicon

variable {lexicon : Lexicon} {style : Style} {surface : Text} {reading : Reading}

/-- A reading has, for every character of a surface, the stored readings of the lexicon. -/
structure Aligned (lexicon : Lexicon) (style : Style) (surface : Text) (reading : Reading) :
    Prop where
  lists : reading.candidates.length = surface.length
  numericLists : reading.numericCandidates.length = surface.length
  /-- In both tables a character has as many candidates as there are readings, and the candidates
  in one place are written for the reading in that place. -/
  candidates : ∀ (i : Nat) (c : Char), surface[i]? = some c → ∃ display numeric : List Text,
    reading.candidates[i]? = some display ∧ reading.numericCandidates[i]? = some numeric ∧
      display.length = (lexicon.readingsOf c).length ∧
      numeric.length = (lexicon.readingsOf c).length ∧
      ∀ (k : Nat) (stored : Text), (lexicon.readingsOf c)[k]? = some stored →
        display[k]? = some (style.render stored) ∧
          numeric[k]? = some (Style.tone3.render stored)
  /-- A single character has the tone that its first reading ends in, if that is numeric. -/
  tone : ∀ c, surface = [c] →
    (∀ first, (lexicon.readingsOf c).head? = some first → first.IsNumeric) →
      ∀ number, reading.tone = some number ↔ ∃ first, (lexicon.readingsOf c).head? = some first ∧
        ∃ t : Tone, t.number = number ∧ first.trim.getLast? = some t.digit

theorem getElem?_pronounce {i : Nat} {c : Char} (h : surface[i]? = some c) (style : Style) :
    (lexicon.pronounce surface style true)[i]? =
      some ((lexicon.readingsOf c).map style.render) := by
  rw [pronounce, List.getElem?_map, h]
  rfl

/-- The tone of a character is told by its first stored reading. -/
theorem ofSyllable?_headD_pronounce {t : Tone} (readings : List Text) :
    Tone.ofSyllable? ((readings.map Style.tone3.render).headD []) = some t ↔
      ∃ first, readings.head? = some first ∧
        (∀ c ∈ first.trim, Unicode.isBlank c = false) ∧ Tone.Ends first.trim t := by
  cases readings with
  | nil => simp [Tone.ofSyllable?]
  | cons first rest => simp [Tone.ofSyllable?_render_tone3]

/-- If that is numeric, the character has the tone of the digit at its end. -/
theorem tone_of_ofTables {display : List (List Text)} {c : Char}
    (h : Reading.ofTables [c] style display (lexicon.pronounce [c] .tone3 true) = .ok reading)
    (hnum : ∀ first, (lexicon.readingsOf c).head? = some first → first.IsNumeric)
    (number : UInt8) :
    reading.tone = some number ↔ ∃ first, (lexicon.readingsOf c).head? = some first ∧
      ∃ t : Tone, t.number = number ∧ first.trim.getLast? = some t.digit := by
  have hkept := Reading.retains_of_ofTables (List.cons_ne_nil c []) h
  have htone : reading.tone = some number ↔ ∃ t : Tone, t.number = number ∧
      Tone.ofSyllable? (((lexicon.readingsOf c).map Style.tone3.render).headD []) = some t := by
    rw [hkept.tone _ rfl number]
    exact exists_congr fun t => and_congr_right fun _ => Tone.ofSyllable?_eq_some.symm
  simp only [htone, ofSyllable?_headD_pronounce]
  cases hfirst : (lexicon.readingsOf c).head? with
  | none => simp
  | some first =>
    obtain ⟨hblanks, hdigits⟩ := hnum first hfirst
    simp only [Option.some.injEq, exists_eq_left', Tone.ends_iff_getLast? hdigits,
      and_iff_right hblanks]

/-- **Alignment.** A lexicon gives every surface a reading, in every style. In both of its tables
the candidates of a character are its stored readings, each in its place, and a single character
has the tone that its first stored reading ends in. -/
theorem aligned_reading (lexicon : Lexicon) (style : Style) (surface : Text) (s : Session σ) :
    ∃ reading, ((Pronouncer.ofLexicon lexicon).reading style surface).run s = (.ok reading, s) ∧
      lexicon.Aligned style surface reading := by
  have hlength : ∀ style, (lexicon.pronounce surface style true).length = surface.length :=
    fun style => List.length_map _
  obtain ⟨reading, hr, hd, hn⟩ := Reading.ofTables_of_length style (hlength style) (hlength .tone3)
  refine ⟨reading, ?_, by rw [hd, hlength], by rw [hn, hlength], fun i c hi => ?_, ?_⟩
  · rw [← hr]
    exact Pronouncer.reading_of_answers rfl rfl
  · refine ⟨_, _, hd ▸ getElem?_pronounce hi style, hn ▸ getElem?_pronounce hi .tone3,
      List.length_map _, List.length_map _, fun k stored hk => ?_⟩
    rw [List.getElem?_map, List.getElem?_map, hk]
    exact ⟨rfl, rfl⟩
  · rintro c rfl
    exact tone_of_ofTables hr

end Lexicon

end Hanyu
