import Hanyu.Proofs.NumericForm

/-!
# Initials of syllables

An initial is told from the letters alone: it is the first entry of a table with which they begin
and after which they go on. Nothing is asked about the letters after it, so that a syllable without
a vowel, such as the nasal `ng`, is taken apart as well when it has more than one letter.

* `Syllable.hasInitial_iff`: an initial stands before further letters.
* `Syllable.initial_ne_nil`: two or more consonants begin with an initial.
* `Syllable.final_eq_afterInitial`: of consonants, the final is what the initial leaves.
* `Syllable.exists_vowel_final`: of other letters, the final has a vowel when there is an initial.
* `Style.lacksInitial_iff`: exactly when letters without a vowel have no initial.
-/

namespace Hanyu

namespace Syllable

variable {letters ini : Text} {c : Char}

/-! ## The table of initials -/

theorem hasInitial_iff : hasInitial letters ini = true ↔ ∃ c rest, letters = ini ++ c :: rest := by
  unfold hasInitial
  constructor
  · intro h
    split at h
    · rename_i c rest hrest
      exact ⟨c, rest, Text.rest?_eq_some_iff.mp hrest⟩
    · cases h
  · rintro ⟨c, rest, rfl⟩
    rw [Text.rest?_append]

theorem initial_eq_nil_or (letters : Text) :
    initial letters = [] ∨
      initial letters ∈ initials ∧ hasInitial letters (initial letters) = true := by
  unfold initial
  cases h : initials.find? (hasInitial letters) with
  | none => exact .inl rfl
  | some ini => exact .inr ⟨List.mem_of_find?_eq_some h, List.find?_some h⟩

theorem ne_nil_of_mem_initials : ∀ ini ∈ initials, ini ≠ [] := by decide

theorem isVowel_of_mem_initials : ∀ ini ∈ initials, ∀ c ∈ ini, isVowel c = false := by
  have hall : (initials.all fun ini => ini.all fun c => !isVowel c) = true := by decide
  simpa using hall

theorem head?_of_mem_initials : ∀ ini ∈ initials, ini.head? ≠ some 'y' ∧ ini.head? ≠ some 'w' := by
  decide

/-- Letters have no initial exactly when they go on after no entry of the table. -/
theorem initial_eq_nil_iff :
    initial letters = [] ↔ ∀ ini ∈ initials, hasInitial letters ini = false := by
  constructor
  · intro h ini hm
    refine Bool.eq_false_iff.mpr fun hi => ?_
    obtain ⟨found, hfound⟩ := Option.isSome_iff_exists.mp (List.find?_isSome.mpr ⟨ini, hm, hi⟩)
    rw [initial, hfound] at h
    exact ne_nil_of_mem_initials found (List.mem_of_find?_eq_some hfound) h
  · intro h
    rcases initial_eq_nil_or letters with hnil | ⟨hm, hi⟩
    · exact hnil
    · rw [h _ hm] at hi
      cases hi

theorem initial_of_length_le_one (h : letters.length ≤ 1) : initial letters = [] := by
  refine initial_eq_nil_iff.mpr fun ini hm => Bool.eq_false_iff.mpr fun hi => ?_
  obtain ⟨c, rest, rfl⟩ := hasInitial_iff.mp hi
  have hpos : 0 < ini.length := List.length_pos_iff.mpr (ne_nil_of_mem_initials ini hm)
  rw [List.length_append, List.length_cons] at h
  omega

/-- What is spelled with `y` or `w` in the beginning has no initial. -/
theorem initial_of_head? (h : letters.head? = some 'y' ∨ letters.head? = some 'w') :
    initial letters = [] := by
  refine initial_eq_nil_iff.mpr fun ini hm => Bool.eq_false_iff.mpr fun hi => ?_
  obtain ⟨c, rest, rfl⟩ := hasInitial_iff.mp hi
  obtain ⟨d, after, rfl⟩ := List.exists_cons_of_ne_nil (ne_nil_of_mem_initials ini hm)
  exact h.elim (head?_of_mem_initials _ hm).1 (head?_of_mem_initials _ hm).2

/-- All vowels of the letters come after their initial. -/
theorem mem_afterInitial (hc : c ∈ letters) (hv : isVowel c = true) : c ∈ afterInitial letters := by
  rw [← initial_append_rest letters] at hc
  refine (List.mem_append.mp hc).resolve_left fun hini => ?_
  rcases initial_eq_nil_or letters with hnil | ⟨hm, -⟩
  · rw [hnil] at hini
    cases hini
  · rw [isVowel_of_mem_initials _ hm c hini] at hv
    cases hv

/-! ## Consonants -/

/-- The letters are among `a` to `z` and `ü`. -/
def IsLatin (letters : Text) : Prop := ∀ c ∈ letters, c.isLower = true ∨ c = 'ü'

instance decidableIsLatin (letters : Text) : Decidable (IsLatin letters) :=
  decidable_of_iff ((letters.all fun c => c.isLower || c == 'ü') = true) (by simp [IsLatin])

/-- None of the letters is a vowel, and the first does not stand for one. -/
structure IsConsonantal (letters : Text) : Prop where
  vowels : ∀ c ∈ letters, isVowel c = false
  head : letters.head? ≠ some 'y' ∧ letters.head? ≠ some 'w'

instance decidableIsConsonantal (letters : Text) : Decidable (IsConsonantal letters) :=
  have hvowels : (letters.all fun c => !isVowel c) = true ↔ ∀ c ∈ letters, isVowel c = false := by
    simp
  decidable_of_iff ((letters.all fun c => !isVowel c) = true ∧
      letters.head? ≠ some 'y' ∧ letters.head? ≠ some 'w')
    ⟨fun ⟨hv, hh⟩ => ⟨hvowels.mp hv, hh⟩, fun h => ⟨hvowels.mpr h.vowels, h.head⟩⟩

/-- Every consonant of the alphabet is an initial, but for those that have a part in spelling
vowels. -/
theorem singleton_mem_initials (hl : c.isLower = true) (hv : isVowel c = false)
    (hs : c ∉ ['v', 'w', 'y']) : [c] ∈ initials := by
  have hall : ∀ n ∈ List.range' 97 26, isVowel (Char.ofNat n) = false →
      Char.ofNat n ∉ ['v', 'w', 'y'] → [Char.ofNat n] ∈ initials := by decide
  have hrange : 97 ≤ c.toNat ∧ c.toNat ≤ 122 := by
    have hval : (decide ('a'.val ≤ c.val) && decide (c.val ≤ 'z'.val)) = true := hl
    simpa [UInt32.le_iff_toNat_le, ← Char.toNat_val] using hval
  have hc := hall c.toNat (List.mem_range'_1.mpr (by omega))
  rw [Char.ofNat_toNat] at hc
  exact hc hv hs

theorem not_mem_letters_ofText (text : Text) : 'v' ∉ (ofText text).letters := by
  rw [ofText_eq, spellUmlaut_eq]
  intro h
  obtain ⟨c, -, hc⟩ := List.mem_map.mp h
  rcases spellV_eq_or c with humlaut | ⟨hsame, hne⟩
  · rw [humlaut] at hc
    cases hc
  · exact hne (hsame.symm.trans hc)

/-- Two or more consonants begin with an initial. -/
theorem initial_ne_nil (hl : IsLatin letters) (hc : IsConsonantal letters) (hv : 'v' ∉ letters)
    (hlength : 1 < letters.length) : initial letters ≠ [] := by
  obtain ⟨c, d, rest, rfl⟩ : ∃ c d rest, letters = c :: d :: rest := by
    match letters, hlength with
    | c :: d :: rest, _ => exact ⟨c, d, rest, rfl⟩
  have hcons : isVowel c = false := hc.vowels c List.mem_cons_self
  have hlower : c.isLower = true := by
    refine (hl c List.mem_cons_self).resolve_right fun humlaut => ?_
    rw [humlaut] at hcons
    cases hcons
  have hspell : c ∉ ['v', 'w', 'y'] := by
    simp only [List.mem_cons, List.not_mem_nil, or_false, not_or]
    refine ⟨?_, ?_, ?_⟩
    · rintro rfl
      exact hv List.mem_cons_self
    · rintro rfl
      exact hc.head.2 rfl
    · rintro rfl
      exact hc.head.1 rfl
  intro hnil
  have hno := initial_eq_nil_iff.mp hnil _ (singleton_mem_initials hlower hcons hspell)
  have hyes : hasInitial (c :: d :: rest) [c] = true := hasInitial_iff.mpr ⟨d, rest, rfl⟩
  rw [hyes] at hno
  cases hno

/-- Letters without a vowel have an initial exactly when they are two or more. -/
theorem initial_eq_nil_iff_length (hl : IsLatin letters) (hc : IsConsonantal letters)
    (hv : 'v' ∉ letters) : initial letters = [] ↔ letters.length ≤ 1 :=
  ⟨fun h => Nat.le_of_not_lt fun hlt => initial_ne_nil hl hc hv hlt h, initial_of_length_le_one⟩

/-! ## Finals -/

/-- Of consonants, the final is what the initial leaves. -/
theorem final_eq_afterInitial (hc : IsConsonantal letters) :
    final letters = afterInitial letters := by
  have hparts := initial_append_rest letters
  have hu : ∀ rest, afterInitial letters ≠ 'u' :: rest := fun rest hrest => by
    have hmem : 'u' ∈ letters := by
      rw [← hparts, hrest]
      simp
    cases hc.vowels 'u' hmem
  have hhead : initial letters = [] → afterInitial letters = letters := fun hnil => by
    rwa [hnil, List.nil_append] at hparts
  unfold final
  split
  case h_9 => rfl
  case h_6 | h_7 | h_8 =>
    rename_i hrest
    exact absurd hrest (hu _)
  case h_1 | h_2 | h_3 =>
    rename_i hnil hrest
    rw [hhead hnil] at hrest
    exact absurd (by rw [hrest]; rfl) hc.head.1
  case h_4 | h_5 =>
    rename_i hnil hrest
    rw [hhead hnil] at hrest
    exact absurd (by rw [hrest]; rfl) hc.head.2

theorem initial_append_final (hc : IsConsonantal letters) :
    initial letters ++ final letters = letters := by
  rw [final_eq_afterInitial hc, initial_append_rest]

/-- Letters with a vowel have one in their final. -/
theorem exists_vowel_final (h : ∃ c ∈ letters, isVowel c = true) :
    ∃ c ∈ final letters, isVowel c = true := by
  obtain ⟨c, hc, hv⟩ := h
  have hafter := mem_afterInitial hc hv
  unfold final
  split
  case h_9 => exact ⟨c, hafter, hv⟩
  all_goals exact ⟨_, List.mem_cons_self, rfl⟩

/-- An initial that is not empty has a final with a vowel after it, exactly when the letters are not
two or more consonants. -/
theorem vowel_after_initial_iff (hl : IsLatin letters) (hv : 'v' ∉ letters) :
    (initial letters ≠ [] → ∃ c ∈ final letters, isVowel c = true) ↔
      ¬(IsConsonantal letters ∧ 1 < letters.length) := by
  constructor
  · rintro himp ⟨hc, hlength⟩
    obtain ⟨c, hm, hvowel⟩ := himp (initial_ne_nil hl hc hv hlength)
    rw [final_eq_afterInitial hc] at hm
    rw [hc.vowels c (List.mem_of_mem_drop hm)] at hvowel
    cases hvowel
  · intro hnot hne
    refine exists_vowel_final (Classical.byContradiction fun hnone => hnot ⟨⟨?_, ?_⟩, ?_⟩)
    · exact fun c hm => Bool.eq_false_iff.mpr fun hvowel => hnone ⟨c, hm, hvowel⟩
    · exact ⟨fun hy => hne (initial_of_head? (.inl hy)), fun hw => hne (initial_of_head? (.inr hw))⟩
    · exact Nat.lt_of_not_le fun hle => hne (initial_of_length_le_one hle)

end Syllable

namespace Style

open Syllable

variable {text : Text}

/-- **Initials of syllables without a vowel.** Letters without a vowel are put together from the
initial and the final; the initial is empty, and the final all of them, exactly when there is at
most one of them. After an initial that is not empty there is a final with a vowel, exactly when the
letters are not two or more consonants. -/
theorem lacksInitial_iff (h : IsLatin (ofText text).letters) :
    (IsConsonantal (ofText text).letters →
      initials.render text ++ finals.render text = normal.render text ∧
      ((initials.render text = [] ∧ finals.render text = normal.render text) ↔
        (ofText text).letters.length ≤ 1)) ∧
    ((initials.render text ≠ [] → ∃ c ∈ finals.render text, isVowel c = true) ↔
      ¬(IsConsonantal (ofText text).letters ∧ 1 < (ofText text).letters.length)) := by
  have hv := not_mem_letters_ofText text
  refine ⟨fun hc => ?_, vowel_after_initial_iff h hv⟩
  have hparts : initials.render text ++ finals.render text = normal.render text :=
    initial_append_final hc
  have hnil : initials.render text = [] ↔ (ofText text).letters.length ≤ 1 :=
    initial_eq_nil_iff_length h hc hv
  refine ⟨hparts, fun hboth => hnil.mp hboth.1, fun hlength => ?_⟩
  rw [hnil.mpr hlength, List.nil_append] at hparts
  exact ⟨hnil.mpr hlength, hparts⟩

/-- The nasal `hng`, in capitals and between blanks, is put together from a final and an initial that
is not empty. -/
theorem lacksInitial_iff_hng :
    IsLatin (ofText " HNG4 ".toList).letters ∧
      initials.render " HNG4 ".toList ++ finals.render " HNG4 ".toList = "hng".toList ∧
      initials.render " HNG4 ".toList ≠ [] := by
  have hlatin : IsLatin (ofText " HNG4 ".toList).letters := by decide +kernel
  have hletters : normal.render " HNG4 ".toList = "hng".toList := by decide +kernel
  obtain ⟨hparts, hlacks⟩ := (lacksInitial_iff hlatin).1 (by decide +kernel)
  refine ⟨hlatin, hparts.trans hletters, fun hnil => ?_⟩
  rw [hnil, List.nil_append] at hparts
  exact absurd (hlacks.mp ⟨hnil, hparts⟩) (by decide +kernel)

/-- The nasal `ng` has neither a vowel nor a letter that stands for one, and is taken apart. -/
theorem initial_of_ng :
    IsLatin (ofText "ng2".toList).letters ∧ IsConsonantal (ofText "ng2".toList).letters ∧
      initials.render "ng2".toList = ['n'] ∧ finals.render "ng2".toList = ['g'] := by
  decide +kernel

end Style

end Hanyu
