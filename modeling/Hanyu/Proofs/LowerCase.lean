import Hanyu.Unicode.Blank
import Hanyu.Unicode.Case

/-!
# Texts in lower case

What the lower-case mapping does to texts of any script.

* `lowercase_lowercase`: a text in lower case stays as it is.
* `mem_of_mem_lowercaseAfter`, `mem_lowercase`: blanks and digits are neither made nor lost.
* `lowercase_append_digit`, `getLast?_lowercase_iff`: a digit at the end stays, and has no influence
  on the rest of a text.
-/

namespace Hanyu.Unicode

/-! ## Runs of capitals -/

/-- The lower-case form of the first capital of a run. -/
def firstForm (run : Nat × Nat × Nat × Nat) : Nat := run.2.2.2

/-- The lower-case form of the last capital of a run. -/
def lastForm (run : Nat × Nat × Nat × Nat) : Nat := run.2.2.2 + (run.2.1 - run.1)

/-- Whether no lower-case form of a run is a capital of another one: they do not overlap, or they
alternate, each with the step 2 or with a single form. -/
def settles (run other : Nat × Nat × Nat × Nat) : Bool :=
  Nat.blt (lastForm run) other.1 || Nat.blt other.2.1 (firstForm run) ||
    ((Nat.beq run.2.2.1 2 || Nat.beq run.1 run.2.1) && Nat.beq other.2.2.1 2 &&
      Nat.beq ((firstForm run + other.1) % 2) 1)

theorem settles_runs : lowercaseRuns.all (fun run => lowercaseRuns.all (settles run)) = true := by
  decide +kernel

/-- The forms of every run are characters, and none of them is the capital with two forms. -/
theorem isScalar_form : ∀ run ∈ lowercaseRuns,
    (lastForm run < 0xD800 ∨ 0xDFFF < firstForm run) ∧ lastForm run < 0x110000 ∧
      (lastForm run < 0x130 ∨ 0x130 < firstForm run) := by
  decide +kernel

/-- What a character becomes in a text. -/
inductive HasForm (c : Char) : List Char → Prop where
  /-- It is in lower case. -/
  | self (h : lowercaseChar c = [c]) : HasForm c [c]
  /-- It is the capital with two forms. -/
  | dotted (h : c = '\u0130') : HasForm c ['i', '\u0307']
  /-- It is the sigma, which is another one at the end of a word. -/
  | sigma (h : c = 'Σ') (d : Char) (hd : d = 'σ' ∨ d = 'ς') : HasForm c [d]
  /-- It is a capital of a run. -/
  | run (run : Nat × Nat × Nat × Nat) (d : Char) (hm : run ∈ lowercaseRuns) (hle : run.1 ≤ c.toNat)
      (hle' : c.toNat ≤ run.2.1) (hstep : (c.toNat - run.1) % run.2.2.1 = 0)
      (hd : d.toNat = firstForm run + (c.toNat - run.1)) : HasForm c [d]

theorem toNat_ofNat_of_lt {n : Nat} (h : n < 0xD800 ∨ 0xDFFF < n) (h' : n < 0x110000) :
    (Char.ofNat n).toNat = n := by
  have hv : n.isValidChar := by
    rcases h with h | h
    · exact .inl h
    · exact .inr ⟨h, h'⟩
  rw [Char.ofNat, dif_pos hv]
  rfl

theorem hasForm_lowercaseChar (c : Char) : HasForm c (lowercaseChar c) := by
  by_cases h : c = '\u0130'
  · rw [lowercaseChar, if_pos h]
    exact .dotted h
  · cases hfind : lowercaseRuns.find? fun run =>
        Nat.ble run.1 c.toNat && Nat.ble c.toNat run.2.1 &&
          (c.toNat - run.1) % run.2.2.1 == 0 with
    | some run =>
      have hm := List.mem_of_find?_eq_some hfind
      have hc := List.find?_some hfind
      simp only [Bool.and_eq_true, Nat.ble_eq, beq_iff_eq] at hc
      obtain ⟨⟨hle, hle'⟩, hstep⟩ := hc
      obtain ⟨hvalid, hbound, -⟩ := isScalar_form run hm
      simp only [lastForm, firstForm] at hvalid hbound
      rw [lowercaseChar, if_neg h, hfind]
      exact .run run _ hm hle hle' hstep (toNat_ofNat_of_lt (by omega) (by omega))
    | none =>
      have hself : lowercaseChar c = [c] := by rw [lowercaseChar, if_neg h, hfind]
      rw [hself]
      exact .self hself

/-! ## Characters in lower case -/

variable {c d : Char} {form : List Char}

theorem HasForm.ne_nil (h : HasForm c form) : form ≠ [] := by
  cases h <;> exact List.cons_ne_nil _ _

/-- What a character becomes is in lower case. -/
theorem HasForm.lowercaseChar_of_mem (h : HasForm c form) (hd : d ∈ form) :
    lowercaseChar d = [d] := by
  cases h with
  | self h => rwa [List.mem_singleton.mp hd]
  | dotted =>
    simp only [List.mem_cons, List.not_mem_nil, or_false] at hd
    rcases hd with rfl | rfl <;> decide +kernel
  | sigma _ e he =>
    obtain rfl := List.mem_singleton.mp hd
    rcases he with rfl | rfl <;> decide +kernel
  | run run e hm hle hle' hstep he =>
    obtain rfl := List.mem_singleton.mp hd
    have hdotted : d ≠ '\u0130' := by
      rintro rfl
      obtain ⟨-, -, hne⟩ := isScalar_form run hm
      simp only [lastForm, firstForm] at hne he
      change 0x130 = _ at he
      omega
    have hfind : (lowercaseRuns.find? fun other =>
        Nat.ble other.1 d.toNat && Nat.ble d.toNat other.2.1 &&
          (d.toNat - other.1) % other.2.2.1 == 0) = none := by
      refine List.find?_eq_none.mpr fun other ho => ?_
      have hs := List.all_eq_true.mp (List.all_eq_true.mp settles_runs run hm) other ho
      simp only [settles, lastForm, firstForm, Bool.or_eq_true, Bool.and_eq_true, Nat.blt_eq,
        Nat.beq_eq] at hs he
      simp only [Bool.and_eq_true, Nat.ble_eq, beq_iff_eq]
      rintro ⟨⟨hlo, hhi⟩, hmod⟩
      rcases hs with (hs | hs) | ⟨⟨hs | hs, h₂⟩, hodd⟩
      · omega
      · omega
      · rw [h₂] at hmod
        rw [hs] at hstep
        omega
      · rw [h₂] at hmod
        omega
    rw [lowercaseChar, if_neg hdotted, hfind]

/-- Lower case makes no character of some ranges out of another character. -/
structure CodeRanges.NotMade (ranges : CodeRanges) : Prop where
  runs : ∀ run ∈ lowercaseRuns, ∀ range ∈ ranges, lastForm run < range.1 ∨ range.2 < firstForm run
  others : ['i', '\u0307', 'σ', 'ς'].any ranges.contains = false

theorem notMade_blankRanges : blankRanges.NotMade := ⟨by decide +kernel, by decide +kernel⟩

/-- The ASCII digits. -/
def digitRanges : CodeRanges := [(0x30, 0x39)]

theorem contains_digitRanges (c : Char) : digitRanges.contains c = c.isDigit := by
  rw [Bool.eq_iff_iff, CodeRanges.contains_eq_true_iff]
  simp only [digitRanges, List.mem_singleton, exists_eq_left, Char.isDigit, Bool.and_eq_true,
    decide_eq_true_eq]
  rfl

theorem notMade_digitRanges : digitRanges.NotMade := ⟨by decide +kernel, by decide +kernel⟩

/-- Lower case makes nothing else out of a character of some ranges. -/
structure CodeRanges.NotCapital (ranges : CodeRanges) : Prop where
  runs : ∀ run ∈ lowercaseRuns, ∀ range ∈ ranges, run.2.1 < range.1 ∨ range.2 < run.1
  others : ['\u0130', 'Σ'].any ranges.contains = false

theorem notCapital_blankRanges : blankRanges.NotCapital := ⟨by decide +kernel, by decide +kernel⟩

theorem notCapital_digitRanges : digitRanges.NotCapital := ⟨by decide +kernel, by decide +kernel⟩

theorem HasForm.eq_singleton {ranges : CodeRanges} (h : HasForm c form) (hn : ranges.NotCapital)
    (hr : ranges.contains c = true) : form = [c] := by
  have hothers : c ∉ ['\u0130', 'Σ'] := fun hmem => List.any_eq_false.mp hn.others c hmem hr
  cases h with
  | self => rfl
  | dotted hc => exact absurd (by simp [hc]) hothers
  | sigma hc => exact absurd (by simp [hc]) hothers
  | run run _ hm hle hle' =>
    obtain ⟨range, hrange, hlo, hhi⟩ := CodeRanges.contains_eq_true_iff.mp hr
    have hapart := hn.runs run hm range hrange
    omega

theorem HasForm.eq_of_mem {ranges : CodeRanges} (h : HasForm c form) (hn : ranges.NotMade)
    (hd : d ∈ form) (hr : ranges.contains d = true) : d = c := by
  have hothers : d ∉ ['i', '\u0307', 'σ', 'ς'] := fun hmem =>
    List.any_eq_false.mp hn.others d hmem hr
  cases h with
  | self => exact List.mem_singleton.mp hd
  | dotted => exact absurd (List.mem_append_left ['σ', 'ς'] hd) hothers
  | sigma _ e he =>
    obtain rfl := List.mem_singleton.mp hd
    exact absurd (by rcases he with rfl | rfl <;> decide) hothers
  | run run e hm hle hle' hstep he =>
    obtain rfl := List.mem_singleton.mp hd
    obtain ⟨range, hrange, hlo, hhi⟩ := CodeRanges.contains_eq_true_iff.mp hr
    have hapart := hn.runs run hm range hrange
    simp only [lastForm, firstForm] at hapart he
    omega

/-! ## Texts in lower case -/

variable {before text : List Char} {ranges : CodeRanges}

/-- The characters of a text become their forms one after the other. -/
theorem lowercaseAfter_cons (before : List Char) (c : Char) (text : List Char) :
    ∃ form, HasForm c form ∧
      lowercaseAfter before (c :: text) = form ++ lowercaseAfter (c :: before) text := by
  refine ⟨_, ?_, rfl⟩
  by_cases hc : c = 'Σ'
  · rw [if_pos hc]
    by_cases hfinal : (nextIsCased before && !nextIsCased text) = true
    · rw [if_pos hfinal]
      exact .sigma hc _ (.inr rfl)
    · rw [if_neg hfinal]
      exact .sigma hc _ (.inl rfl)
  · rw [if_neg hc]
    exact hasForm_lowercaseChar c

/-- In a text in lower case every character is in lower case. -/
theorem lowercaseChar_of_mem (h : d ∈ lowercaseAfter before text) : lowercaseChar d = [d] := by
  induction text generalizing before with
  | nil => cases h
  | cons c text ih =>
    obtain ⟨form, hform, heq⟩ := lowercaseAfter_cons before c text
    rw [heq] at h
    rcases List.mem_append.mp h with h | h
    · exact hform.lowercaseChar_of_mem h
    · exact ih h

theorem lowercaseAfter_of_forall (h : ∀ c ∈ text, lowercaseChar c = [c]) :
    lowercaseAfter before text = text := by
  induction text generalizing before with
  | nil => rfl
  | cons c text ih =>
    have hsigma : c ≠ 'Σ' := by
      rintro rfl
      exact absurd (h 'Σ' List.mem_cons_self) (by decide +kernel)
    rw [lowercaseAfter, if_neg hsigma, h c List.mem_cons_self,
      ih fun d hd => h d (List.mem_cons_of_mem _ hd)]
    rfl

/-- A text is in lower case when all its characters are. -/
theorem lowercase_of_forall (h : ∀ c ∈ text, lowercaseChar c = [c]) : lowercase text = text :=
  lowercaseAfter_of_forall h

/-- A text in lower case stays as it is. -/
theorem lowercase_lowercase (text : List Char) : lowercase (lowercase text) = lowercase text :=
  lowercase_of_forall fun _ => lowercaseChar_of_mem

/-- A character that lower case does not make has been in the text. -/
theorem mem_of_mem_lowercaseAfter (hn : ranges.NotMade) (h : d ∈ lowercaseAfter before text)
    (hr : ranges.contains d = true) : d ∈ text := by
  induction text generalizing before with
  | nil => cases h
  | cons c text ih =>
    obtain ⟨form, hform, heq⟩ := lowercaseAfter_cons before c text
    rw [heq] at h
    rcases List.mem_append.mp h with h | h
    · obtain rfl : d = c := hform.eq_of_mem hn h hr
      exact List.mem_cons_self
    · exact List.mem_cons_of_mem _ (ih h)

/-- A character of which lower case makes nothing else is still in the text. -/
theorem mem_lowercase (hn : ranges.NotCapital) (h : d ∈ text) (hr : ranges.contains d = true) :
    d ∈ lowercase text := by
  suffices hmem : ∀ before, d ∈ lowercaseAfter before text from hmem []
  induction text with
  | nil => cases h
  | cons c text ih =>
    intro before
    obtain ⟨form, hform, heq⟩ := lowercaseAfter_cons before c text
    rw [heq]
    rcases List.mem_cons.mp h with rfl | h
    · exact List.mem_append_left _ (by simp [hform.eq_singleton hn hr])
    · exact List.mem_append_right _ (ih h _)

/-- At the beginning it has been at the beginning. -/
theorem head?_of_head?_lowercase (hn : ranges.NotMade) (h : (lowercase text).head? = some d)
    (hr : ranges.contains d = true) : text.head? = some d := by
  cases text with
  | nil => cases h
  | cons c text =>
    obtain ⟨form, hform, heq⟩ := lowercaseAfter_cons [] c text
    cases form with
    | nil => exact absurd rfl hform.ne_nil
    | cons e form =>
      rw [lowercase, heq] at h
      obtain rfl : e = d := Option.some.inj h
      rw [hform.eq_of_mem hn List.mem_cons_self hr]
      rfl

/-- At the end it has been at the end. -/
theorem getLast?_of_getLast?_lowercaseAfter (hn : ranges.NotMade)
    (h : (lowercaseAfter before text).getLast? = some d) (hr : ranges.contains d = true) :
    text.getLast? = some d := by
  induction text generalizing before with
  | nil => cases h
  | cons c text ih =>
    obtain ⟨form, hform, heq⟩ := lowercaseAfter_cons before c text
    rw [heq, List.getLast?_append, Option.or_eq_some_iff] at h
    rcases h with h | ⟨hnone, h⟩
    · rw [List.getLast?_cons, ih h]
      rfl
    · cases text with
      | nil => rw [hform.eq_of_mem hn (List.mem_of_getLast? h) hr]; rfl
      | cons e text =>
        obtain ⟨form', hform', heq'⟩ := lowercaseAfter_cons (c :: before) e text
        rw [heq', List.getLast?_eq_none_iff, List.append_eq_nil_iff] at hnone
        exact absurd hnone.1 hform'.ne_nil

/-! ## Digits at the end -/

theorem toNat_of_isDigit (h : d.isDigit = true) : 0x30 ≤ d.toNat ∧ d.toNat ≤ 0x39 := by
  rw [← contains_digitRanges, CodeRanges.contains_eq_true_iff] at h
  simpa [digitRanges] using h

/-- A digit belongs to no ranges that leave the digits out. -/
theorem contains_of_isDigit (h : d.isDigit = true)
    (hr : ∀ range ∈ ranges, range.2 < 0x30 ∨ 0x39 < range.1) : ranges.contains d = false := by
  obtain ⟨hlo, hhi⟩ := toNat_of_isDigit h
  refine Bool.eq_false_iff.mpr fun hc => ?_
  obtain ⟨range, hrange, hle, hle'⟩ := CodeRanges.contains_eq_true_iff.mp hc
  have := hr range hrange
  omega

theorem isBlank_of_isDigit (h : d.isDigit = true) : isBlank d = false :=
  contains_of_isDigit h (by decide +kernel)

theorem lowercaseChar_of_isDigit (h : d.isDigit = true) : lowercaseChar d = [d] :=
  (hasForm_lowercaseChar d).eq_singleton notCapital_digitRanges ((contains_digitRanges d).trans h)

/-- No cased character follows on a digit at the end. -/
theorem nextIsCased_append_digit (h : d.isDigit = true) (text : List Char) :
    nextIsCased (text ++ [d]) = nextIsCased text := by
  have hignorable : caseIgnorableRanges.contains d = false :=
    contains_of_isDigit h (by decide +kernel)
  have hcased : casedRanges.contains d = false := contains_of_isDigit h (by decide +kernel)
  induction text with
  | nil => simp [nextIsCased, hignorable, hcased]
  | cons c text ih =>
    by_cases hc : caseIgnorableRanges.contains c = true
    · simpa [nextIsCased, hc] using ih
    · simp [nextIsCased, hc]

/-- A digit at the end has no influence on the text before it. -/
theorem lowercaseAfter_append_digit (h : d.isDigit = true) (before text : List Char) :
    lowercaseAfter before (text ++ [d]) = lowercaseAfter before text ++ [d] := by
  have hsigma : d ≠ 'Σ' := by rintro rfl; cases h
  induction text generalizing before with
  | nil => simp [lowercaseAfter, hsigma, lowercaseChar_of_isDigit h]
  | cons c text ih =>
    rw [List.cons_append, lowercaseAfter, lowercaseAfter, ih, nextIsCased_append_digit h,
      List.append_assoc]

theorem lowercase_append_digit (h : d.isDigit = true) (text : List Char) :
    lowercase (text ++ [d]) = lowercase text ++ [d] :=
  lowercaseAfter_append_digit h [] text

/-- A text ends with the same digit in lower case. -/
theorem getLast?_lowercase_iff (h : d.isDigit = true) :
    (lowercase text).getLast? = some d ↔ text.getLast? = some d := by
  constructor
  · exact fun hl => getLast?_of_getLast?_lowercaseAfter notMade_digitRanges hl
      ((contains_digitRanges d).trans h)
  · intro hl
    obtain ⟨before, rfl⟩ := List.getLast?_eq_some_iff.mp hl
    rw [lowercase_append_digit h, List.getLast?_concat]

end Hanyu.Unicode
