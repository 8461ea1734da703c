import Hanyu.Proofs.LowerCase
import Hanyu.Syllable

/-!
# Spellings of syllables

A syllable is read from a body, the text in lower case without a digit at its end, with `ü` in the
place of `u:` and `v`.

* `Syllable.ofText_eq`: letters and tone of a syllable by its body.
* `Syllable.spellUmlaut_spellUmlaut`: spelling `ü` leaves nothing more to spell.
* `Syllable.getLast?_spellUmlaut`: what becomes of the end of a body.
* `Syllable.ofText_of_isDigit`, `Syllable.ofText_of_not_isDigit`: a digit can be left out before
  the text is in lower case.
-/

namespace Hanyu

namespace Syllable

variable {letters : Text} {c : Char}

/-! ## The umlaut -/

/-- The letter that stands for a letter, `ü` for `v`. -/
def spellV (c : Char) : Char := if c = 'v' then 'ü' else c

theorem spellUmlaut_eq (letters : Text) :
    spellUmlaut letters = (spellColon letters).map spellV := rfl

theorem spellV_of_ne (h : c ≠ 'v') : spellV c = c := if_neg h

theorem spellV_eq_or (c : Char) : spellV c = 'ü' ∨ spellV c = c ∧ c ≠ 'v' := by
  by_cases h : c = 'v'
  · exact .inl (if_pos h)
  · exact .inr ⟨if_neg h, h⟩

theorem spellV_spellV (c : Char) : spellV (spellV c) = spellV c := by
  rcases spellV_eq_or c with h | ⟨h, -⟩
  · rw [h]; decide
  · rw [h, h]

theorem head?_spellColon (letters : Text) :
    (spellColon letters).head? = some 'ü' ∨ (spellColon letters).head? = letters.head? := by
  fun_cases spellColon letters with
  | case1 => exact .inr rfl
  | case2 => exact .inl rfl
  | case3 => exact .inr rfl

theorem spellColon_cons (h : c = 'u' → letters.head? ≠ some ':') :
    spellColon (c :: letters) = c :: spellColon letters := by
  rw [spellColon]
  rintro rest rfl rfl
  exact h rfl rfl

/-- Spelling `ü` leaves nothing more to spell. -/
theorem spellColon_spellUmlaut (letters : Text) :
    spellColon (spellUmlaut letters) = spellUmlaut letters := by
  rw [spellUmlaut_eq]
  fun_induction spellColon letters with
  | case1 => rfl
  | case2 rest ih =>
    rw [List.map_cons, spellColon_cons, ih]
    exact fun h => absurd h (by decide)
  | case3 c rest hne ih =>
    rw [List.map_cons, spellColon_cons, ih]
    -- The `u:` that this would be has been one before.
    intro hu hcolon
    obtain ⟨d, hd, hdcolon⟩ := Option.map_eq_some_iff.mp (List.head?_map ▸ hcolon)
    rcases spellV_eq_or c with hc | ⟨hc, -⟩
    · rw [hc] at hu
      cases hu
    · rcases spellV_eq_or d with hd' | ⟨hd', -⟩
      · rw [hd'] at hdcolon
        cases hdcolon
      · rw [hc] at hu
        rw [hd'] at hdcolon
        subst hdcolon
        rcases head?_spellColon rest with h | h
        · rw [h] at hd
          cases hd
        · rw [h] at hd
          obtain ⟨rest', rfl⟩ := List.head?_eq_some_iff.mp hd
          exact hne rest' hu rfl

theorem spellUmlaut_spellUmlaut (letters : Text) :
    spellUmlaut (spellUmlaut letters) = spellUmlaut letters := by
  rw [spellUmlaut_eq (spellUmlaut letters), spellColon_spellUmlaut, spellUmlaut_eq, List.map_map]
  exact List.map_congr_left fun c _ => spellV_spellV c

theorem length_spellUmlaut_le (letters : Text) :
    (spellUmlaut letters).length ≤ letters.length := by
  rw [spellUmlaut_eq, List.length_map]
  fun_induction spellColon letters with
  | case1 => exact Nat.le_refl _
  | case2 rest ih => simp only [List.length_cons]; omega
  | case3 c rest _ ih => simp only [List.length_cons]; omega

/-- The letters of a spelling are those of the body, and `ü`. -/
theorem mem_spellUmlaut (h : c ∈ spellUmlaut letters) : c = 'ü' ∨ c ∈ letters := by
  rw [spellUmlaut_eq] at h
  obtain ⟨d, hd, rfl⟩ := List.mem_map.mp h
  have hcolon : d = 'ü' ∨ d ∈ letters := by
    clear h
    fun_induction spellColon letters with
    | case1 => cases hd
    | case2 rest ih =>
      rcases List.mem_cons.mp hd with rfl | hd
      · exact .inl rfl
      · exact (ih hd).imp_right fun h => List.mem_cons_of_mem _ (List.mem_cons_of_mem _ h)
    | case3 c rest _ ih =>
      rcases List.mem_cons.mp hd with rfl | hd
      · exact .inr List.mem_cons_self
      · exact (ih hd).imp_right fun h => List.mem_cons_of_mem _ h
  rcases spellV_eq_or d with h' | ⟨h', -⟩
  · exact .inl h'
  · rwa [h']

/-- The letters that take no part in spelling `ü` are kept. -/
theorem mem_spellUmlaut_of_mem (h : c ∈ letters) (hc : c ∉ ['u', ':', 'v']) :
    c ∈ spellUmlaut letters := by
  rw [spellUmlaut_eq]
  simp only [List.mem_cons, List.not_mem_nil, or_false, not_or] at hc
  refine List.mem_map.mpr ⟨c, ?_, spellV_of_ne hc.2.2⟩
  fun_induction spellColon letters with
  | case1 => cases h
  | case2 rest ih =>
    simp only [List.mem_cons, hc.1, hc.2.1, false_or] at h
    exact List.mem_cons_of_mem _ (ih h)
  | case3 d rest _ ih =>
    rcases List.mem_cons.mp h with rfl | h
    · exact List.mem_cons_self
    · exact List.mem_cons_of_mem _ (ih h)

/-- A spelling begins as the body, or with `ü`. -/
theorem head?_spellUmlaut (h : (spellUmlaut letters).head? = some c) :
    c = 'ü' ∨ letters.head? = some c := by
  rw [spellUmlaut_eq, List.head?_map] at h
  obtain ⟨d, hd, rfl⟩ := Option.map_eq_some_iff.mp h
  rcases head?_spellColon letters with hs | hs
  · rw [hs] at hd
    obtain rfl := Option.some.inj hd
    exact .inl (by decide)
  · rw [hs] at hd
    rcases spellV_eq_or d with h' | ⟨h', -⟩
    · exact .inl h'
    · exact .inr (by rw [h', hd])

/-- A body and its spelling have one end, unless that is a colon which becomes `ü`. -/
theorem getLast?_spellColon (letters : Text) :
    (spellColon letters).getLast? = letters.getLast? ∨
      letters.getLast? = some ':' ∧ (spellColon letters).getLast? = some 'ü' := by
  fun_induction spellColon letters with
  | case1 => exact .inl rfl
  | case2 rest ih =>
    rcases ih with ih | ⟨hcolon, humlaut⟩
    · cases hrest : rest.getLast? with
      | none =>
        obtain rfl := List.getLast?_eq_none_iff.mp hrest
        exact .inr ⟨rfl, rfl⟩
      | some d => exact .inl (by simp [List.getLast?_cons, ih, hrest])
    · exact .inr (by simp [List.getLast?_cons, hcolon, humlaut])
  | case3 c rest _ ih =>
    rcases ih with ih | ⟨hcolon, humlaut⟩
    · exact .inl (by rw [List.getLast?_cons, List.getLast?_cons, ih])
    · exact .inr (by simp [List.getLast?_cons, hcolon, humlaut])

/-- A spelling ends as the body, or with `ü`. -/
theorem getLast?_spellUmlaut (h : (spellUmlaut letters).getLast? = some c) :
    c = 'ü' ∨ letters.getLast? = some c := by
  rw [spellUmlaut_eq, List.getLast?_map] at h
  obtain ⟨d, hd, rfl⟩ := Option.map_eq_some_iff.mp h
  rcases getLast?_spellColon letters with hs | ⟨-, hs⟩
  · rcases spellV_eq_or d with h' | ⟨h', -⟩
    · exact .inl h'
    · exact .inr (by rw [h', ← hs, hd])
  · rw [hs] at hd
    obtain rfl := Option.some.inj hd
    exact .inl (by decide)

/-- A body that ends with neither a colon nor `v` has a spelling that ends with the same. -/
theorem getLast?_spellUmlaut_of_ne (h : letters.getLast? = some c) (hcolon : c ≠ ':')
    (hv : c ≠ 'v') : (spellUmlaut letters).getLast? = some c := by
  rw [spellUmlaut_eq, List.getLast?_map]
  rcases getLast?_spellColon letters with hs | ⟨hs, -⟩
  · rw [hs, h, Option.map_some, spellV_of_ne hv]
  · rw [h] at hs
    exact absurd (Option.some.inj hs) hcolon

/-! ## Bodies -/

/-- The text that a syllable is written with, in lower case and without blanks at its ends. -/
def plain (text : Text) : Text := Unicode.lowercase text.trim

/-- The text that a syllable is written with, without one digit at its end. -/
def body (text : Text) : Text :=
  if ((plain text).getLast?.any Char.isDigit) then (plain text).dropLast else plain text

theorem body_of_isDigit {text : Text} (h : (plain text).getLast? = some c) (hc : c.isDigit = true) :
    body text = (plain text).dropLast := if_pos (by simp [h, hc])

theorem body_of_not_isDigit {text : Text}
    (h : ∀ c, (plain text).getLast? = some c → c.isDigit = false) : body text = plain text := by
  refine if_neg ?_
  cases hlast : (plain text).getLast? with
  | none => simp
  | some c => simp [h c hlast]

/-- A syllable has the spelling of its body as its letters, and the tone of the digit after it. -/
theorem ofText_eq (text : Text) :
    ofText text = ⟨spellUmlaut (body text), (plain text).getLast?.bind Tone.ofDigit?⟩ := by
  simp only [ofText, show Unicode.lowercase text.trim = plain text from rfl]
  cases h : (plain text).getLast? with
  | none =>
    rw [body_of_not_isDigit (by simp [h]), List.getLast?_eq_none_iff.mp h]
    rfl
  | some c =>
    cases hc : c.isDigit with
    | true =>
      rw [body_of_isDigit h hc]
      exact if_pos hc
    | false =>
      rw [body_of_not_isDigit (by simp [h, hc]), Option.bind_some,
        Tone.ofDigit?_of_not_isDigit hc]
      exact if_neg (by simp [hc])

/-- A digit at the end of a trimmed text is left out of the letters. -/
theorem ofText_of_isDigit {text before : Text} (h : text.trim = before ++ [c])
    (hc : c.isDigit = true) :
    ofText text = ⟨spellUmlaut (Unicode.lowercase before), Tone.ofDigit? c⟩ := by
  have hplain : plain text = Unicode.lowercase before ++ [c] := by
    rw [plain, h, Unicode.lowercase_append_digit hc]
  have hlast : (plain text).getLast? = some c := by rw [hplain, List.getLast?_concat]
  rw [ofText_eq, body_of_isDigit hlast hc, hlast, hplain, List.dropLast_concat, Option.bind_some]

/-- Without a digit at its end the whole of it is spelled. -/
theorem ofText_of_not_isDigit {text : Text}
    (h : ∀ c, text.trim.getLast? = some c → c.isDigit = false) :
    ofText text = ⟨spellUmlaut (Unicode.lowercase text.trim), none⟩ := by
  have hlast : ∀ c, (plain text).getLast? = some c → c.isDigit = false := fun c hc => by
    cases hd : c.isDigit with
    | false => rfl
    | true =>
      rw [← hd]
      exact h c ((Unicode.getLast?_lowercase_iff hd).mp hc)
  rw [ofText_eq, body_of_not_isDigit hlast]
  cases hc : (plain text).getLast? with
  | none => rfl
  | some c => rw [Option.bind_some, Tone.ofDigit?_of_not_isDigit (hlast c hc)]; rfl

/-- Letters in lower case, with `ü` spelled out, have a blank when the text has one. -/
theorem isBlank_spelled_iff {text : Text} :
    (∀ c ∈ spellUmlaut (Unicode.lowercase text), Unicode.isBlank c = false) ↔
      ∀ c ∈ text, Unicode.isBlank c = false := by
  have humlaut : ['u', ':', 'v'].any Unicode.isBlank = false := by decide +kernel
  constructor
  · intro h c hc
    refine Bool.eq_false_iff.mpr fun hb => ?_
    have hkept : c ∈ spellUmlaut (Unicode.lowercase text) :=
      mem_spellUmlaut_of_mem (Unicode.mem_lowercase Unicode.notCapital_blankRanges hc hb)
        fun hmem => List.any_eq_false.mp humlaut c hmem hb
    rw [h c hkept] at hb
    cases hb
  · intro h c hc
    rcases mem_spellUmlaut hc with rfl | hl
    · decide +kernel
    · refine Bool.eq_false_iff.mpr fun hb => ?_
      rw [h c (Unicode.mem_of_mem_lowercaseAfter Unicode.notMade_blankRanges hl hb)] at hb
      cases hb

/-- They end with a digit when the text does. -/
theorem getLast?_spelled_iff {text : Text} (h : c.isDigit = true) :
    (spellUmlaut (Unicode.lowercase text)).getLast? = some c ↔ text.getLast? = some c := by
  refine Iff.trans ?_ (Unicode.getLast?_lowercase_iff h)
  constructor
  · intro hl
    rcases getLast?_spellUmlaut hl with rfl | hl
    · cases h
    · exact hl
  · intro hl
    refine getLast?_spellUmlaut_of_ne hl ?_ ?_
    all_goals
      rintro rfl
      cases h

end Syllable

end Hanyu
