import Hanyu.Proofs.Declared
import Hanyu.Proofs.Trimming

/-!
# Names of schemes

Schemes are declared under their names as they are written, and looked up by names without the
blanks at their ends. A scheme is found by its own name exactly when that name has no such blanks.

* `Text.foldCase_trim`: blanks at the ends of a text have no case.
* `Text.sameUpToCase_trim_self`: trimming changes more than the case of a text that it changes.
* `Catalog.schemeNamed?_declared_iff`: of the declared schemes at most one has a name.
* `Catalog.resolveScheme_declared`: which names the default scheme is found by.
* `Catalog.names_agree_iff`: exactly when declared names are names to look up.
-/

namespace Hanyu

/-! ## Trimmed names -/

namespace Text

theorem toNat_toLower {c : Char} (h : 65 ≤ c.toNat ∧ c.toNat ≤ 90) :
    c.toLower.toNat = c.toNat + 32 := by
  have hc : c.val ≥ 'A'.val ∧ c.val ≤ 'Z'.val := h
  have hle : c.val.toNat ≤ 90 := h.2
  have hlt : c.val.toNat + 32 < 2 ^ 32 := by omega
  have hlower : c.toLower = ⟨c.val + ('a'.val - 'A'.val), _⟩ := dif_pos hc
  rw [hlower]
  change (c.val + ('a'.val - 'A'.val)).toNat = c.val.toNat + 32
  rw [UInt32.toNat_add]
  exact Nat.mod_eq_of_lt hlt

theorem isBlank_eq_false {c : Char} (h : 65 ≤ c.toNat) (h' : c.toNat ≤ 122) :
    Unicode.isBlank c = false := by
  have hr : ∀ range ∈ Unicode.blankRanges, range.2 < 65 ∨ 122 < range.1 := by decide
  refine Bool.eq_false_iff.mpr fun hb => ?_
  obtain ⟨range, hm, hle⟩ := Unicode.CodeRanges.contains_eq_true_iff.mp hb
  rcases hr range hm with hlt | hlt <;> omega

theorem isBlank_toLower (c : Char) : Unicode.isBlank c.toLower = Unicode.isBlank c := by
  by_cases h : 65 ≤ c.toNat ∧ c.toNat ≤ 90
  · have hlow := toNat_toLower h
    rw [isBlank_eq_false h.1 (by omega), isBlank_eq_false (by omega) (by omega)]
  · have hc : ¬(c.val ≥ 'A'.val ∧ c.val ≤ 'Z'.val) := h
    have hlower : c.toLower = c := dif_neg hc
    rw [hlower]

theorem foldCase_dropWhile (text : Text) :
    foldCase (text.dropWhile Unicode.isBlank) = (foldCase text).dropWhile Unicode.isBlank := by
  have hp : Unicode.isBlank ∘ Char.toLower = Unicode.isBlank := funext isBlank_toLower
  rw [foldCase, foldCase, List.dropWhile_map, hp]

/-- Blanks at the ends of a text have no case. -/
theorem foldCase_trim (text : Text) : foldCase text.trim = (foldCase text).trim := by
  have hr : ∀ t : Text, foldCase t.reverse = (foldCase t).reverse := fun t => List.map_reverse
  simp only [trim, trimEnd, hr, foldCase_dropWhile]

/-- A text without blanks at its ends differs from no text more than from the trimmed one. -/
theorem sameUpToCase_trim {a b : Text} (ha : a.trim = a) (h : a.sameUpToCase b = true) :
    a.sameUpToCase b.trim = true := by
  rw [sameUpToCase_iff] at h ⊢
  rw [foldCase_trim, ← h, ← foldCase_trim, ha]

theorem length_foldCase (text : Text) : text.foldCase.length = text.length := List.length_map _

/-- Trimming changes more than the case of a text that it changes. -/
theorem sameUpToCase_trim_self {text : Text} :
    text.sameUpToCase text.trim = true ↔ text.trim = text := by
  rw [sameUpToCase_iff]
  constructor
  · intro h
    have hlength : text.trim.length = text.length := by
      rw [← length_foldCase text, h, length_foldCase]
    exact (trim_sublist text).eq_of_length hlength
  · exact fun h => (congrArg foldCase h).symm

end Text

namespace Catalog

variable {π : Type} {declarations : List (Declaration π)} {language : Text}

/-! ## Lookups in what is declared -/

theorem mem_schemes_of_resolveScheme {catalog : Catalog π} {name : Text} {scheme : Scheme}
    (h : catalog.resolveScheme language name = .ok scheme) : (language, scheme) ∈ catalog.schemes := by
  rw [resolveScheme] at h
  split at h
  · rename_i found hs
    cases h
    rcases Option.or_eq_some_iff.mp hs with hs | ⟨-, hs⟩
    · exact (schemeNamed?_eq_some hs).1
    · obtain ⟨default, -, hs⟩ := Option.bind_eq_some_iff.mp hs
      exact (schemeNamed?_eq_some hs).1
  · cases h

/-- The scheme of a name is one that was declared. -/
theorem mem_of_resolveScheme {name : Text} {scheme : Scheme}
    (h : (declared declarations).resolveScheme language name = .ok scheme) :
    .scheme language scheme ∈ declarations :=
  mem_schemes_declared.mp (mem_schemes_of_resolveScheme h)

section Declared

variable (distinct : (declarations.map Declaration.key).Nodup)
include distinct

/-- Of the declared schemes at most one has a name. -/
theorem schemeNamed?_declared_iff {scheme : Scheme} (hs : .scheme language scheme ∈ declarations)
    (name : Text) :
    (declared declarations).schemeNamed? language name = some scheme ↔
      scheme.name.sameUpToCase name = true := by
  constructor
  · exact fun h => (schemeNamed?_eq_some h).2
  · intro hname
    have hsome : ((declared declarations).schemeNamed? language name).isSome = true :=
      isSome_schemeNamed?_iff.mpr ⟨scheme, by simpa using hs, hname⟩
    obtain ⟨found, hfound⟩ := Option.isSome_iff_exists.mp hsome
    obtain ⟨hm, hsame⟩ := schemeNamed?_eq_some hfound
    rw [Text.sameUpToCase_iff] at hname hsame
    cases Declaration.eq_of_key_eq distinct (mem_schemes_declared.mp hm) hs
      (congrArg (Declaration.Key.scheme language) (hsame.trans hname.symm))
    exact hfound

/-- The default scheme of a language is looked up by the declared name. -/
theorem defaultScheme?_declared {name : Text} (hd : .defaultScheme language name ∈ declarations) :
    (declared declarations).defaultScheme? language =
      (declared declarations).schemeNamed? language name.trim := by
  have hsome : ((declared declarations).defaults.lookup language).isSome = true :=
    isSome_lookup_iff.mpr ⟨name, by simpa using hd⟩
  obtain ⟨found, hfound⟩ := Option.isSome_iff_exists.mp hsome
  have hm := mem_defaults_declared.mp (mem_of_lookup hfound)
  cases Declaration.eq_of_key_eq distinct hm hd rfl
  rw [defaultScheme?, hfound]
  rfl

/-- The scheme that the default name stands for is found by its own names, and by every name that no
scheme has. -/
theorem resolveScheme_declared {scheme : Scheme} (hs : .scheme language scheme ∈ declarations)
    {name : Text} (hd : .defaultScheme language name ∈ declarations)
    (hname : scheme.name.sameUpToCase name.trim = true) {asked : Text}
    (h : scheme.name.sameUpToCase asked.trim = true ∨ ∀ other, .scheme language other ∈ declarations →
      ¬other.name.sameUpToCase asked.trim = true) :
    (declared declarations).resolveScheme language asked = .ok scheme := by
  rcases h with hasked | hunknown
  · exact resolveScheme_of_scheme? ((schemeNamed?_declared_iff distinct hs asked.trim).mpr hasked)
  · have hnone : (declared declarations).scheme? language asked = none := by
      rw [scheme?, ← Option.not_isSome_iff_eq_none, isSome_schemeNamed?_iff]
      rintro ⟨other, hm, hother⟩
      exact hunknown other (mem_schemes_declared.mp hm) hother
    rw [resolveScheme, hnone, defaultScheme?_declared distinct hd,
      (schemeNamed?_declared_iff distinct hs name.trim).mpr hname]
    rfl

end Declared

/-- Every name stands for a scheme exactly when the default name does. -/
theorem resolveScheme_total_iff {catalog : Catalog π} {name : Text}
    (hd : catalog.defaultScheme? language = catalog.schemeNamed? language name.trim) :
    (∀ asked, ∃ scheme, catalog.resolveScheme language asked = .ok scheme) ↔
      (catalog.defaultScheme? language).isSome = true := by
  have hresolve : ∀ asked, (∃ scheme, catalog.resolveScheme language asked = .ok scheme) ↔
      ((catalog.scheme? language asked).or (catalog.defaultScheme? language)).isSome = true := by
    intro asked
    rw [resolveScheme]
    cases (catalog.scheme? language asked).or (catalog.defaultScheme? language) <;> simp
  simp only [hresolve, Option.isSome_or, Bool.or_eq_true]
  refine ⟨fun h => ?_, fun h _ => .inr h⟩
  -- The default name itself is a name to ask for, and stands for the default scheme at most.
  have hname : catalog.scheme? language name = catalog.defaultScheme? language := hd.symm
  simpa [hname] using h name

/-! ## Declared names as names to look up -/

/-- **Declared names are names to look up.** In a catalog that declarations make up, a scheme is
found by its own name exactly when that name has no blanks at its ends, and so is the scheme whose
name was checked to be the default one. Every name stands for a scheme exactly when a scheme has the
default name without such blanks. -/
theorem names_agree_iff {catalog : Catalog π} (h : ofDeclarations declarations = .ok catalog)
    (language : Text) :
    (∀ scheme, .scheme language scheme ∈ declarations →
      (catalog.scheme? language scheme.name = some scheme ↔ scheme.name.trim = scheme.name)) ∧
    ∀ name, .defaultScheme language name ∈ declarations →
      ∃ checked, catalog.schemeNamed? language name = some checked ∧
        (catalog.defaultScheme? language = some checked ↔ name.trim = name) ∧
        ((∀ asked, ∃ scheme, catalog.resolveScheme language asked = .ok scheme) ↔
          ∃ scheme, .scheme language scheme ∈ declarations ∧
            scheme.name.sameUpToCase name.trim = true) := by
  obtain ⟨hn, hcomplete, rfl⟩ := ofDeclarations_eq_ok_iff.mp h
  refine ⟨fun scheme hs => ?_, fun name hd => ?_⟩
  · rw [scheme?, schemeNamed?_declared_iff hn hs, Text.sameUpToCase_trim_self]
  · obtain ⟨checked, hs, hname⟩ := hcomplete.defaults language name hd
    have hdefault := defaultScheme?_declared hn hd
    refine ⟨checked, (schemeNamed?_declared_iff hn hs name).mpr hname, ?_, ?_⟩
    · rw [hdefault, schemeNamed?_declared_iff hn hs, ← Text.sameUpToCase_trim_self]
      rw [Text.sameUpToCase_iff] at hname
      simp only [Text.sameUpToCase_iff, hname]
    · rw [resolveScheme_total_iff hdefault, hdefault, isSome_schemeNamed?_iff]
      simp

/-- A scheme and a default name in other case, both without blanks at their ends. -/
theorem names_agree_iff_upper :
    let scheme : Scheme := ⟨"Upper".toList, [], ['t'], "tone".toList⟩
    let declarations : List (Declaration Unit) := [
      .provider ⟨"xx".toList, ['t'], .transliterator, [], ()⟩, .scheme "xx".toList scheme,
      .defaultScheme "xx".toList "UPPER".toList]
    let catalog := declared declarations
    ofDeclarations declarations = .ok catalog ∧
      catalog.scheme? "xx".toList scheme.name = some scheme ∧
      catalog.defaultScheme? "xx".toList = some scheme ∧
        ∀ asked, ∃ scheme, catalog.resolveScheme "xx".toList asked = .ok scheme := by
  intro scheme declarations catalog
  have hmade : ofDeclarations declarations = .ok catalog := rfl
  obtain ⟨hschemes, hdefaults⟩ := names_agree_iff hmade "xx".toList
  obtain ⟨checked, hchecked, hdefault, hresolve⟩ :=
    hdefaults "UPPER".toList (by simp [declarations])
  obtain rfl : scheme = checked := Option.some.inj hchecked
  have hs : .scheme "xx".toList scheme ∈ declarations := by simp [declarations]
  exact ⟨hmade, (hschemes scheme hs).mpr (by decide +kernel), hdefault.mpr (by decide +kernel),
    hresolve.mpr ⟨scheme, hs, by decide +kernel⟩⟩

/-- Blanks around a name keep its scheme from being found, and a language that has a default scheme
may be said to be unknown. -/
theorem not_found_by_own_name :
    let scheme : Scheme := ⟨" A ".toList, [], ['t'], "tone".toList⟩
    let declarations : List (Declaration Unit) := [
      .provider ⟨"xx".toList, ['t'], .transliterator, [], ()⟩, .scheme "xx".toList scheme,
      .defaultScheme "xx".toList " A ".toList]
    let catalog := declared declarations
    ofDeclarations declarations = .ok catalog ∧
      catalog.scheme? "xx".toList scheme.name = none ∧
      catalog.defaultScheme? "xx".toList = none ∧
        catalog.resolveScheme "xx".toList ['B'] = .error (.unknownLanguage "xx".toList) := by
  refine ⟨rfl, ?_⟩
  decide +kernel

end Catalog

end Hanyu
