import Hanyu.Proofs.Spelling
import Hanyu.Proofs.Trimming
import Hanyu.Style

/-!
# The numeric form of a syllable

Readings are stored with a tone digit at the end. Whatever the spelling of a syllable, its numeric
form says as much as the spelling in every style, unless the form of a syllable without a tone ends
in a way that is not read back.

* `Syllable.isNormal_ofText`: what the letters of every syllable that is read have in common.
* `Style.ofText_tone3`: a syllable is read back from its numeric form.
* `Style.render_tone3_iff`: exactly when the numeric form stands for a text in all styles.
-/

namespace Hanyu

/-! ## Reading back -/

namespace Syllable

variable {syllable : Syllable} {text : Text} {c : Char}

/-- The letters of a syllable are spelled with `ü`, are in lower case and do not begin with a
blank. -/
structure IsNormal (syllable : Syllable) : Prop where
  spelled : spellUmlaut syllable.letters = syllable.letters
  lower : ∀ c ∈ syllable.letters, Unicode.lowercaseChar c = [c]
  head : ∀ c, syllable.letters.head? = some c → Unicode.isBlank c = false

theorem body_prefix_plain (text : Text) : body text <+: plain text := by
  unfold body
  split
  · exact List.dropLast_prefix _
  · exact List.prefix_rfl

theorem isBlank_of_head?_body (h : (body text).head? = some c) : Unicode.isBlank c = false := by
  obtain ⟨after, ha⟩ := body_prefix_plain text
  have hplain : (plain text).head? = some c := by rw [← ha, List.head?_append, h, Option.some_or]
  cases hb : Unicode.isBlank c with
  | false => rfl
  | true =>
    rw [← hb]
    exact Text.head?_trim (Unicode.head?_of_head?_lowercase Unicode.notMade_blankRanges hplain hb)

/-- Every syllable that is read from a text has such letters. -/
theorem isNormal_ofText (text : Text) : (ofText text).IsNormal := by
  rw [ofText_eq]
  refine ⟨spellUmlaut_spellUmlaut _, fun c hc => ?_, fun c hc => ?_⟩
  · rcases mem_spellUmlaut hc with rfl | hc
    · decide +kernel
    · exact Unicode.lowercaseChar_of_mem ((body_prefix_plain text).subset hc)
  · rcases head?_spellUmlaut hc with rfl | hc
    · decide +kernel
    · exact isBlank_of_head?_body hc

/-- A text in lower case without blanks at its ends is read as it is. -/
theorem plain_eq_self (hl : ∀ c ∈ text, Unicode.lowercaseChar c = [c])
    (hh : ∀ c, text.head? = some c → Unicode.isBlank c = false)
    (he : ∀ c, text.getLast? = some c → Unicode.isBlank c = false) : plain text = text := by
  rw [plain, Text.trim_eq_self hh he, Unicode.lowercase_of_forall hl]

/-- Letters with a digit after them are read back with the tone of the digit. -/
theorem ofText_append_digit (hn : syllable.IsNormal) (t : Tone) :
    ofText (syllable.letters ++ [t.digit]) = ⟨syllable.letters, some t⟩ := by
  have hplain : plain (syllable.letters ++ [t.digit]) = syllable.letters ++ [t.digit] := by
    refine plain_eq_self (fun c hc => ?_) (fun c hc => ?_) (fun c hc => ?_)
    · rcases List.mem_append.mp hc with hc | hc
      · exact hn.lower c hc
      · obtain rfl := List.mem_singleton.mp hc
        exact Unicode.lowercaseChar_of_isDigit t.isDigit_digit
    · rw [List.head?_append, Option.or_eq_some_iff] at hc
      rcases hc with hc | ⟨-, hc⟩
      · exact hn.head c hc
      · obtain rfl := Option.some.inj hc
        exact Unicode.isBlank_of_isDigit t.isDigit_digit
    · rw [List.getLast?_concat] at hc
      obtain rfl := Option.some.inj hc
      exact Unicode.isBlank_of_isDigit t.isDigit_digit
  have hlast : (plain (syllable.letters ++ [t.digit])).getLast? = some t.digit := by
    rw [hplain, List.getLast?_concat]
  rw [ofText_eq, body_of_isDigit hlast t.isDigit_digit, hlast, hplain, List.dropLast_concat,
    hn.spelled, Option.bind_some, Tone.ofDigit?_digit]

/-- Letters that end with neither a digit nor a blank are read back without a tone. -/
theorem ofText_letters (hn : syllable.IsNormal) (he : ∀ c, syllable.letters.getLast? = some c →
    c.isDigit = false ∧ Unicode.isBlank c = false) :
    ofText syllable.letters = ⟨syllable.letters, none⟩ := by
  have hplain : plain syllable.letters = syllable.letters :=
    plain_eq_self hn.lower hn.head fun c hc => (he c hc).2
  rw [ofText_eq, body_of_not_isDigit (by rw [hplain]; exact fun c hc => (he c hc).1), hplain,
    hn.spelled]
  cases hlast : syllable.letters.getLast? with
  | none => rfl
  | some c => rw [Option.bind_some, Tone.ofDigit?_of_not_isDigit (he c hlast).1]

/-- Letters that end with a digit or a blank are not read back. -/
theorem length_letters_ofText_lt (hn : syllable.IsNormal) (h : syllable.letters.getLast? = some c)
    (hc : c.isDigit = true ∨ Unicode.isBlank c = true) :
    (ofText syllable.letters).letters.length < syllable.letters.length := by
  have hspelled : (ofText syllable.letters).letters.length ≤ (body syllable.letters).length := by
    rw [ofText_eq]
    exact length_spellUmlaut_le _
  refine Nat.lt_of_le_of_lt hspelled ?_
  cases hb : Unicode.isBlank c with
  | true =>
    have hlower : plain syllable.letters = syllable.letters.trim :=
      Unicode.lowercase_of_forall fun d hd => hn.lower d ((Text.trim_sublist _).subset hd)
    calc (body syllable.letters).length ≤ (plain syllable.letters).length :=
          (body_prefix_plain _).length_le
      _ = syllable.letters.trim.length := by rw [hlower]
      _ < syllable.letters.length := Text.length_trim_lt h hb
  | false =>
    have hdigit : c.isDigit = true := hc.resolve_right (by simp [hb])
    have hplain : plain syllable.letters = syllable.letters :=
      plain_eq_self hn.lower hn.head fun d hd => by
        obtain rfl := Option.some.inj (h.symm.trans hd)
        exact hb
    have hpos : 0 < syllable.letters.length := by
      refine List.length_pos_iff.mpr fun hnil => ?_
      rw [hnil] at h
      cases h
    rw [body_of_isDigit (by rw [hplain]; exact h) hdigit, hplain, List.length_dropLast]
    omega

end Syllable

/-! ## Styles of the numeric form -/

namespace Style

open Syllable

variable {text : Text}

/-- A text that writes no tone has a body which ends with neither a digit nor a blank. -/
def EndsPlainly (text : Text) : Prop :=
  (ofText text).tone = none → ∀ c, (body text).getLast? = some c →
    c.isDigit = false ∧ Unicode.isBlank c = false

/-- The numeric form of a syllable is read as the syllable. -/
theorem ofText_tone3 (h : EndsPlainly text) : ofText (tone3.render text) = ofText text := by
  have hn := isNormal_ofText text
  change ofText (withFinalDigit (ofText text).letters (ofText text).tone) = ofText text
  cases ht : (ofText text).tone with
  | none =>
    have hletters : ∀ c, (ofText text).letters.getLast? = some c →
        c.isDigit = false ∧ Unicode.isBlank c = false := fun c hc => by
      rw [ofText_eq] at hc
      rcases getLast?_spellUmlaut hc with rfl | hc
      · decide +kernel
      · exact h ht c hc
    rw [withFinalDigit, ofText_letters hn hletters, ← ht]
  | some t => rw [withFinalDigit, ofText_append_digit hn, ← ht]

/-- A text whose numeric form has its letters ends plainly. -/
theorem endsPlainly_of_render_normal
    (h : normal.render (tone3.render text) = normal.render text) : EndsPlainly text := by
  intro ht c hc
  refine Decidable.byContradiction fun hne => ?_
  have hends : c.isDigit = true ∨ Unicode.isBlank c = true := by
    cases hd : c.isDigit <;> cases hb : Unicode.isBlank c <;> simp_all
  have hletters : (ofText text).letters.getLast? = some c := by
    rw [ofText_eq]
    refine getLast?_spellUmlaut_of_ne hc ?_ ?_
    all_goals
      rintro rfl
      exact absurd hends (by decide +kernel)
  have hform : tone3.render text = (ofText text).letters := by
    change withFinalDigit (ofText text).letters (ofText text).tone = _
    rw [ht, withFinalDigit]
  have hlt := length_letters_ofText_lt (isNormal_ofText text) hletters hends
  rw [hform] at h
  exact absurd (congrArg List.length h) (Nat.ne_of_lt hlt)

/-- **The numeric form.** In every style the numeric form of a text is written as the text is,
exactly when the text writes a tone or has a body that ends with neither a digit nor a blank. -/
theorem render_tone3_iff (text : Text) :
    (∀ style : Style, style.render (tone3.render text) = style.render text) ↔
      ((ofText text).tone = none → ∀ c, (body text).getLast? = some c →
        c.isDigit = false ∧ Unicode.isBlank c = false) := by
  refine ⟨fun h => endsPlainly_of_render_normal (h normal), fun h style => ?_⟩
  rw [render, ofText_tone3 h, render]

end Style

end Hanyu
