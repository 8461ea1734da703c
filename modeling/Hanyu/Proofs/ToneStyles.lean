import Hanyu.Style

/-!
# Styles with tones

A style with tones writes the letters of a style without them, and a tone beside: as a mark on a
vowel, as a digit after that vowel, or as a digit at the end. Without the marks and the digits, the
letters are left.

* `Syllable.exists_tonedVowel?`: letters with a vowel have one that carries the mark.
* `Style.unmarked_withMark`, `Style.withoutDigits_withInnerDigit`,
  `Style.withoutDigits_withFinalDigit`: what is left of a tone without marks or digits.
* `Style.writesTone_of_isToned`: a tone mark and a tone digit tell one tone, at one vowel.
* `Style.write_one_syllable`: the styles with tones write one syllable.
-/

namespace Hanyu

/-! ## Tone marks -/

namespace Tone

/-- The vowel under a tone mark; another character stays as it is. -/
def unmark : Char → Char
  | 'ā' | 'á' | 'ǎ' | 'à' => 'a'
  | 'ē' | 'é' | 'ě' | 'è' => 'e'
  | 'ī' | 'í' | 'ǐ' | 'ì' => 'i'
  | 'ō' | 'ó' | 'ǒ' | 'ò' => 'o'
  | 'ū' | 'ú' | 'ǔ' | 'ù' => 'u'
  | 'ǖ' | 'ǘ' | 'ǚ' | 'ǜ' => 'ü'
  | c => c

/-- Under the mark of a tone there is the vowel that it was put on. -/
theorem unmark_mark {c : Char} (h : unmark c = c) (t : Tone) : unmark (t.mark c) = c := by
  unfold mark
  split
  all_goals first | exact h | cases t <;> rfl

theorem mem_vowels {c : Char} (h : isVowel c = true) : c ∈ ['a', 'e', 'i', 'o', 'u', 'ü'] :=
  List.contains_iff_mem.mp h

/-- Different tones have different marks, and the neutral tone has none. -/
theorem mark_injective {c : Char} (h : isVowel c = true) {t t' : Tone}
    (heq : t.mark c = t'.mark c) : t = t' := by
  have hvowels : ∀ c ∈ ['a', 'e', 'i', 'o', 'u', 'ü'], ∀ t t' : Tone,
      t.mark c = t'.mark c → t = t' := by
    simp only [List.forall_mem_cons, List.not_mem_nil, false_implies, implies_true, and_true]
    refine ⟨?_, ?_, ?_, ?_, ?_, ?_⟩
    all_goals
      intro t t' heq
      cases t <;> cases t' <;> first | rfl | exact absurd heq (by decide)
  exact hvowels c (mem_vowels h) t t' heq

end Tone

/-! ## The vowel that carries the mark -/

namespace Syllable

variable {p : Char → Bool} {letters : Text} {a : Around}

theorem char_of_aroundFirst? (h : aroundFirst? p letters = some a) : p a.char = true := by
  induction letters generalizing a with
  | nil => cases h
  | cons c rest ih =>
    rw [aroundFirst?] at h
    split at h
    · rename_i hc
      cases h
      exact hc
    · obtain ⟨b, hb, rfl⟩ := Option.map_eq_some_iff.mp h
      have hchar : p b.char = true := ih hb
      exact hchar

theorem char_of_aroundOu? (h : aroundOu? letters = some a) : a.char = 'o' := by
  fun_induction aroundOu? letters generalizing a with
  | case1 => cases h
  | case2 rest => cases h; rfl
  | case3 c rest _ ih =>
    obtain ⟨b, hb, rfl⟩ := Option.map_eq_some_iff.mp h
    have hchar : b.char = 'o' := ih hb
    exact hchar

theorem char_of_aroundLast? (h : aroundLast? p letters = some a) : p a.char = true := by
  induction letters generalizing a with
  | nil => cases h
  | cons c rest ih =>
    rw [aroundLast?] at h
    split at h
    · rename_i b hb
      cases h
      have hchar : p b.char = true := ih hb
      exact hchar
    · split at h
      · rename_i hc
        cases h
        exact hc
      · cases h

theorem exists_aroundLast? (h : ∃ c ∈ letters, p c = true) :
    ∃ a, aroundLast? p letters = some a := by
  induction letters with
  | nil => simp at h
  | cons c rest ih =>
    rw [aroundLast?]
    cases hrest : aroundLast? p rest with
    | some b => exact ⟨_, rfl⟩
    | none =>
      obtain ⟨d, hd, hp⟩ := h
      rcases List.mem_cons.mp hd with rfl | hd
      · exact ⟨_, if_pos hp⟩
      · obtain ⟨b, hb⟩ := ih ⟨d, hd, hp⟩
        rw [hrest] at hb
        cases hb

/-- The mark is carried by a vowel. -/
theorem isVowel_of_tonedVowel? (h : tonedVowel? letters = some a) : isVowel a.char = true := by
  simp only [tonedVowel?, Option.orElse_eq_orElse, Option.orElse_eq_or, Option.or_eq_some_iff] at h
  rcases h with h | ⟨-, h | ⟨-, h⟩⟩
  · have hc := char_of_aroundFirst? h
    simp only [Bool.or_eq_true, decide_eq_true_eq] at hc
    rcases hc with hc | hc <;> rw [hc] <;> rfl
  · rw [char_of_aroundOu? h]
    rfl
  · exact char_of_aroundLast? h

/-- Letters with a vowel have one that carries the mark. -/
theorem exists_tonedVowel? (h : ∃ c ∈ letters, isVowel c = true) :
    ∃ a, tonedVowel? letters = some a := by
  obtain ⟨a, ha⟩ := exists_aroundLast? h
  refine Option.isSome_iff_exists.mp ?_
  simp [tonedVowel?, ha]

/-- A final has letters of the syllable, and those that its spelling hides. -/
theorem mem_final {c : Char} (h : c ∈ final letters) : c ∈ ['i', 'u', 'ü'] ∨ c ∈ letters := by
  have hafter : ∀ c ∈ afterInitial letters, c ∈ letters := fun c hc => by
    rw [← initial_append_rest letters]
    exact List.mem_append_right _ hc
  unfold final at h
  split at h
  case h_9 => exact .inr (hafter c h)
  all_goals
    rename_i hrest
    rw [hrest] at hafter
    rcases List.mem_cons.mp h with rfl | h
    · exact .inl (by decide)
    · exact .inr (hafter c (by simp [h]))

end Syllable

/-! ## Texts without digits and without marks -/

namespace Text

/-- The text without its ASCII digits. -/
def withoutDigits (text : Text) : Text := text.filter fun c => !c.isDigit

/-- The text with the vowels under its tone marks. -/
def unmarked (text : Text) : Text := text.map Tone.unmark

/-- The text has no ASCII digit and no vowel with a tone mark. -/
structure IsBare (text : Text) : Prop where
  digits : ∀ c ∈ text, c.isDigit = false
  marks : ∀ c ∈ text, Tone.unmark c = c

instance decidableIsBare (text : Text) : Decidable text.IsBare :=
  decidable_of_iff ((text.all fun c => !c.isDigit) = true ∧
      (text.all fun c => decide (Tone.unmark c = c)) = true)
    ⟨fun ⟨hd, hm⟩ => ⟨by simpa using hd, by simpa using hm⟩,
      fun h => ⟨by simpa using h.digits, by simpa using h.marks⟩⟩

variable {text : Text}

theorem withoutDigits_of_forall (h : ∀ c ∈ text, c.isDigit = false) : text.withoutDigits = text :=
  List.filter_eq_self.mpr fun c hc => by simp [h c hc]

theorem unmarked_of_forall (h : ∀ c ∈ text, Tone.unmark c = c) : text.unmarked = text :=
  (List.map_congr_left h).trans (List.map_id _)

/-- The final of bare letters is bare. -/
theorem IsBare.final (h : text.IsBare) : (Syllable.final text).IsBare := by
  have hadded : ∀ c ∈ ['i', 'u', 'ü'], c.isDigit = false ∧ Tone.unmark c = c := by
    simp only [List.forall_mem_cons, List.not_mem_nil, false_implies, implies_true, and_true]
    exact ⟨⟨rfl, rfl⟩, ⟨rfl, rfl⟩, rfl, rfl⟩
  refine ⟨fun c hc => ?_, fun c hc => ?_⟩
  · exact (Syllable.mem_final hc).elim (fun hc => (hadded c hc).1) (h.digits c)
  · exact (Syllable.mem_final hc).elim (fun hc => (hadded c hc).2) (h.marks c)

end Text

namespace Style

open Syllable

variable {letters : Text} {t : Tone} {a : Around}

/-! ## Tones beside the letters -/

theorem withMark_of_tonedVowel? (ha : tonedVowel? letters = some a) (t : Tone) :
    withMark letters (some t) = a.before ++ t.mark a.char :: a.after := by
  rw [withMark, ha]

theorem withInnerDigit_of_tonedVowel? (ht : t ≠ .neutral) (ha : tonedVowel? letters = some a) :
    withInnerDigit letters (some t) = a.before ++ a.char :: t.digit :: a.after := by
  rw [withInnerDigit, ha]
  rintro ⟨⟩
  exact ht rfl

/-- Without its mark a tone leaves the letters. -/
theorem unmarked_withMark (h : letters.IsBare) (tone : Option Tone) :
    (withMark letters tone).unmarked = letters := by
  cases tone with
  | none => exact Text.unmarked_of_forall h.marks
  | some t =>
    cases ha : tonedVowel? letters with
    | none =>
      rw [withMark, ha]
      exact Text.unmarked_of_forall h.marks
    | some a =>
      have hparts := append_of_tonedVowel? ha
      have hchar : Tone.unmark a.char = a.char := h.marks _ (by simp [← hparts])
      have hmarked : (a.before ++ t.mark a.char :: a.after).unmarked =
          (a.before ++ a.char :: a.after).unmarked := by
        simp only [Text.unmarked, List.map_append, List.map_cons, Tone.unmark_mark hchar, hchar]
      rw [withMark_of_tonedVowel? ha, hmarked, hparts, Text.unmarked_of_forall h.marks]

/-- Without its digit a tone leaves the letters: the digit can stand anywhere. -/
theorem withoutDigits_insert (before after : Text) (t : Tone)
    (h : ∀ c ∈ before ++ after, c.isDigit = false) :
    (before ++ t.digit :: after).withoutDigits = before ++ after := by
  rw [Text.withoutDigits, List.filter_append, List.filter_cons_of_neg (by simp [t.isDigit_digit]),
    ← List.filter_append]
  exact Text.withoutDigits_of_forall h

theorem withoutDigits_withFinalDigit (h : letters.IsBare) (tone : Option Tone) :
    (withFinalDigit letters tone).withoutDigits = letters := by
  cases tone with
  | none => exact Text.withoutDigits_of_forall h.digits
  | some t =>
    rw [withFinalDigit, withoutDigits_insert letters [] t (by simpa using h.digits),
      List.append_nil]

theorem withoutDigits_withInnerDigit (h : letters.IsBare) (tone : Option Tone) :
    (withInnerDigit letters tone).withoutDigits = letters := by
  unfold withInnerDigit
  split
  · exact Text.withoutDigits_of_forall h.digits
  · exact Text.withoutDigits_of_forall h.digits
  · rename_i t _
    split
    · rename_i a ha
      have hparts : (a.before ++ [a.char]) ++ a.after = letters := by
        simpa using append_of_tonedVowel? ha
      have hinsert := withoutDigits_insert (a.before ++ [a.char]) a.after t (by
        rw [hparts]
        exact h.digits)
      rw [hparts] at hinsert
      simpa using hinsert
    · exact withoutDigits_withFinalDigit h (some t)

/-! ## One tone at one vowel -/

/-- The text writes a syllable with one of the four tones, and with a vowel. -/
structure IsToned (text : Text) (t : Tone) : Prop where
  tone : (ofText text).tone = some t
  ne_neutral : t ≠ .neutral
  vowel : ∃ c ∈ (ofText text).letters, isVowel c = true

/-- The mark of a tone stands on the vowel before its inner digit, and its digit also stands at the
end. -/
inductive WritesTone (text : Text) (t : Tone) : Prop where
  | intro (before : Text) (vowel : Char) (after : Text) (hv : isVowel vowel = true)
      (hm : t.mark vowel ≠ vowel) (letters : normal.render text = before ++ vowel :: after)
      (marked : tone.render text = before ++ t.mark vowel :: after)
      (inner : tone2.render text = before ++ vowel :: t.digit :: after)
      (final : tone3.render text = before ++ vowel :: after ++ [t.digit])

variable {text other : Text} {t' : Tone}

theorem writesTone_of_isToned (h : IsToned text t) : WritesTone text t := by
  obtain ⟨a, ha⟩ := exists_tonedVowel? h.vowel
  have hv := isVowel_of_tonedVowel? ha
  have hparts := append_of_tonedVowel? ha
  refine .intro a.before a.char a.after hv (fun hm => h.ne_neutral ?_) hparts.symm ?_ ?_ ?_
  · exact Tone.mark_injective hv (hm.trans (Tone.mark_neutral _).symm)
  · rw [← withMark_of_tonedVowel? ha, ← h.tone]
    rfl
  · rw [← withInnerDigit_of_tonedVowel? h.ne_neutral ha, ← h.tone]
    rfl
  · rw [hparts]
    change withFinalDigit (ofText text).letters (ofText text).tone = _
    rw [h.tone, withFinalDigit]

/-- Bare letters and a tone are told by the letters with the tone mark. -/
theorem eq_of_tone_render (hb : (ofText text).letters.IsBare) (hb' : (ofText other).letters.IsBare)
    (h : IsToned text t) (h' : IsToned other t') (heq : tone.render text = tone.render other) :
    (ofText text).letters = (ofText other).letters ∧ t = t' := by
  have hletters : (ofText text).letters = (ofText other).letters := by
    rw [← unmarked_withMark hb (ofText text).tone, ← unmarked_withMark hb' (ofText other).tone]
    exact congrArg Text.unmarked heq
  refine ⟨hletters, ?_⟩
  obtain ⟨a, ha⟩ := exists_tonedVowel? h.vowel
  have hmarks : withMark (ofText text).letters (ofText text).tone =
      withMark (ofText other).letters (ofText other).tone := heq
  rw [h.tone, h'.tone, ← hletters, withMark_of_tonedVowel? ha, withMark_of_tonedVowel? ha] at hmarks
  exact Tone.mark_injective (isVowel_of_tonedVowel? ha)
    (List.cons.inj (List.append_cancel_left hmarks)).1

/-- **Styles with tones.** For a syllable of bare letters the styles with tone digits write the
letters of the style without tones when their digits are erased, and the styles with tone marks
when their marks are. One of the four tones on a vowel is told alike by marks and by digits, and
with the letters by the marks alone. -/
theorem write_one_syllable {text : Text} (h : (ofText text).letters.IsBare) :
    (∀ style ∈ [tone2, tone3], (style.render text).withoutDigits = normal.render text) ∧
    (tone.render text).unmarked = normal.render text ∧
    (∀ style ∈ [finalsTone2, finalsTone3],
      (style.render text).withoutDigits = finals.render text) ∧
    (finalsTone.render text).unmarked = finals.render text ∧
    ∀ t, IsToned text t → WritesTone text t ∧
      ∀ other t', (ofText other).letters.IsBare → IsToned other t' →
        tone.render text = tone.render other →
          (ofText text).letters = (ofText other).letters ∧ t = t' := by
  refine ⟨List.forall_mem_cons.mpr ⟨?_, List.forall_mem_singleton.mpr ?_⟩, unmarked_withMark h _,
    List.forall_mem_cons.mpr ⟨?_, List.forall_mem_singleton.mpr ?_⟩, unmarked_withMark h.final _,
    fun t ht => ⟨writesTone_of_isToned ht, fun other t' hb' ht' => eq_of_tone_render h hb' ht ht'⟩⟩
  · exact withoutDigits_withInnerDigit h _
  · exact withoutDigits_withFinalDigit h _
  · exact withoutDigits_withInnerDigit h.final _
  · exact withoutDigits_withFinalDigit h.final _

/-- The syllable `lǜ` in two spellings, which are told alike. -/
theorem write_one_syllable_lv4 :
    (ofText "lv4".toList).letters.IsBare ∧
    (∀ style ∈ [tone2, tone3], (style.render "lv4".toList).withoutDigits = "lü".toList) ∧
    WritesTone "lv4".toList .fourth ∧
    (∀ t', IsToned " LU:4 ".toList t' → Tone.fourth = t') := by
  have hbare : (ofText "lv4".toList).letters.IsBare := by decide +kernel
  have hbare' : (ofText " LU:4 ".toList).letters.IsBare := by decide +kernel
  have htoned : IsToned "lv4".toList .fourth :=
    ⟨by decide +kernel, by decide, ⟨'ü', by decide +kernel, rfl⟩⟩
  obtain ⟨hdigits, -, -, -, htones⟩ := write_one_syllable hbare
  obtain ⟨hwrites, honly⟩ := htones .fourth htoned
  exact ⟨hbare, hdigits, hwrites, fun t' h' => (honly _ t' hbare' h' (by decide +kernel)).2⟩

end Style

end Hanyu
