import Hanyu.Chinese.Romanizer
import Hanyu.Proofs.Assembly

/-!
# Unknown languages

A catalog calls a language unknown for two reasons. A pipeline for its default chain is refused so
when nothing is declared for the language. A scheme is refused so when neither the name that is
asked for nor the default one stands for a scheme, and that may be so for a language with providers,
a chain and schemes.

* `Catalog.assemble_eq_unknownLanguage_iff`: a chain is missing, and so is all else of its language.
* `Catalog.resolveScheme_eq_unknownLanguage_iff`: no scheme is found, by the name or by default.
* `Catalog.run_openScheme_eq_unknownLanguage_iff`: a pipeline for a scheme is refused so for the
  scheme only.
* `Catalog.unknownLanguage_iff`: which languages are called unknown, and when only those are for
  which nothing is declared.
-/

namespace Hanyu

variable {σ π : Type}

namespace Catalog

variable {catalog : Catalog π} {language asked l : Text}

/-! ## Looking for a chain -/

theorem chainOf_eq_unknownLanguage_iff :
    catalog.chainOf language = .error (.unknownLanguage l) ↔
      l = language ∧ language ∉ catalog.languages := by
  unfold chainOf
  cases hc : catalog.chain? language with
  | some chain =>
    -- The chain that there is makes the language a known one.
    have hlanguage : chain.language = language := by simpa using List.find?_some hc
    have hm : language ∈ catalog.languages :=
      mem_languages_iff.mpr (.inr (.inl ⟨chain, List.mem_of_find?_eq_some hc, hlanguage⟩))
    simp [hm]
  | none =>
    by_cases hm : language ∈ catalog.languages
    · simp [hm]
    · simp [hm, eq_comm]

theorem instantiate_ne_unknownLanguage (catalog : Catalog π) (language : Text)
    (transliterator : Option Text) (link : ChainLink) (l : Text) :
    catalog.instantiate language transliterator link ≠ .error (.unknownLanguage l) := by
  simp only [instantiate]
  split <;> simp

theorem assemble_eq_unknownLanguage_iff {settings : Settings} {transliterator : Option Text} :
    catalog.assemble settings language transliterator = .error (.unknownLanguage l) ↔
      l = language ∧ language ∉ catalog.languages := by
  rw [← chainOf_eq_unknownLanguage_iff, assemble]
  cases catalog.chainOf language with
  | error refusal => simp [bind, Except.bind]
  | ok chain =>
    cases hp : chain.links.mapM (catalog.instantiate language transliterator) with
    | error refusal =>
      obtain ⟨link, -, hlink⟩ := mapM_error hp
      have hne : refusal ≠ .unknownLanguage l := by
        rintro rfl
        exact instantiate_ne_unknownLanguage catalog language transliterator link l hlink
      simp [bind, Except.bind, hp, hne]
    | ok providers => simp [bind, Except.bind, hp, pure, Except.pure]

/-! ## Looking for a scheme -/

theorem resolveScheme_eq_unknownLanguage_iff :
    catalog.resolveScheme language asked = .error (.unknownLanguage l) ↔
      l = language ∧ catalog.scheme? language asked = none ∧
        catalog.defaultScheme? language = none := by
  rw [← Option.or_eq_none_iff, resolveScheme]
  cases (catalog.scheme? language asked).or (catalog.defaultScheme? language) with
  | none => simp [eq_comm]
  | some scheme => simp

variable [Provider σ π]

/-- A scheme that is found makes its language a known one: only the search for the scheme calls the
language unknown. -/
theorem run_openScheme_eq_unknownLanguage_iff {settings : Settings} {session : Session σ} :
    ((catalog.openScheme settings language asked).run session).1 = .error (.unknownLanguage l) ↔
      catalog.resolveScheme language asked = .error (.unknownLanguage l) := by
  constructor
  · intro h
    rcases openScheme_error h with hr | ⟨scheme, hr, ha | ⟨fault, hfault⟩⟩
    · exact hr
    · have hm := mem_schemes_of_resolveScheme hr
      obtain ⟨-, hunknown⟩ := assemble_eq_unknownLanguage_iff.mp ha
      exact absurd (mem_languages_iff.mpr (.inr (.inr ⟨_, hm, rfl⟩))) hunknown
    · cases hfault
  · intro h
    have hr : (Attempt.ofExcept (catalog.resolveScheme language asked)).run session =
        (.error (.unknownLanguage l), session) := congrArg (·, session) h
    exact congrArg Prod.fst (Attempt.run_bind_error hr)

/-- What a catalog calls unknown, when a scheme is looked for and when a pipeline is opened with it
or without, is a language that it does not know. -/
structure DeniesOnlyUnknown (catalog : Catalog π) (settings : Settings) (language asked : Text)
    (session : Session σ) : Prop where
  resolve : ∀ l, catalog.resolveScheme language asked = .error (.unknownLanguage l) →
    l ∉ catalog.languages
  openDefault : ∀ l, ((catalog.openDefault settings language).run session).1 =
    .error (.unknownLanguage l) → l ∉ catalog.languages
  openScheme : ∀ l, ((catalog.openScheme settings language asked).run session).1 =
    .error (.unknownLanguage l) → l ∉ catalog.languages

end Catalog

/-! ## Declared languages -/

namespace Declaration

/-- A provider, the chain or a scheme of a language is declared. -/
def AreAbout (declarations : List (Declaration π)) (language : Text) : Prop :=
  (∃ entry, .provider entry ∈ declarations ∧ entry.language = language) ∨
    (∃ chain, .chain chain ∈ declarations ∧ chain.language = language) ∨
      ∃ scheme, .scheme language scheme ∈ declarations

/-- A declared scheme of a language has a name, but for its case and the blanks around it. -/
def NameScheme (declarations : List (Declaration π)) (language name : Text) : Prop :=
  ∃ scheme, .scheme language scheme ∈ declarations ∧ scheme.name.sameUpToCase name.trim = true

/-- A name stands for a scheme: that of the name, or the one of the declared default name. -/
def StandsForScheme (declarations : List (Declaration π)) (language asked : Text) : Prop :=
  NameScheme declarations language asked ∨
    ∃ name, .defaultScheme language name ∈ declarations ∧ NameScheme declarations language name

end Declaration

namespace Catalog

open Declaration

variable {declarations : List (Declaration π)} {language asked : Text}

theorem mem_languages_declared :
    language ∈ (declared declarations).languages ↔ AreAbout declarations language := by
  simp [mem_languages_iff, AreAbout]

theorem isSome_scheme?_declared :
    ((declared declarations).scheme? language asked).isSome = true ↔
      NameScheme declarations language asked := by
  simp [scheme?, isSome_schemeNamed?_iff, NameScheme]

theorem isSome_defaultScheme?_declared (distinct : (declarations.map key).Nodup) :
    ((declared declarations).defaultScheme? language).isSome = true ↔
      ∃ name, .defaultScheme language name ∈ declarations ∧
        NameScheme declarations language name := by
  constructor
  · intro h
    obtain ⟨scheme, hscheme⟩ := Option.isSome_iff_exists.mp h
    obtain ⟨name, hname, hs⟩ := Option.bind_eq_some_iff.mp hscheme
    refine ⟨name, mem_defaults_declared.mp (mem_of_lookup hname), ?_⟩
    exact isSome_scheme?_declared.mp (Option.isSome_iff_exists.mpr ⟨scheme, hs⟩)
  · rintro ⟨name, hd, hname⟩
    rw [defaultScheme?_declared distinct hd]
    exact isSome_scheme?_declared.mpr hname

variable [Provider σ π]

/-- **Languages called unknown.** In a catalog that declarations make up, a pipeline without a
scheme is refused for an unknown language exactly when nothing is declared for it. A scheme, and a
pipeline with a scheme, is refused so exactly when the name that is asked for stands for none. So
only languages that are not known are called unknown, except when a language has declarations and
the name stands for no scheme. -/
theorem unknownLanguage_iff {catalog : Catalog π} (h : ofDeclarations declarations = .ok catalog)
    (settings : Settings) (language asked : Text) (session : Session σ) :
    (language ∈ catalog.languages ↔ AreAbout declarations language) ∧
    (∀ l, ((catalog.openDefault settings language).run session).1 = .error (.unknownLanguage l) ↔
      l = language ∧ ¬AreAbout declarations language) ∧
    (∀ l, catalog.resolveScheme language asked = .error (.unknownLanguage l) ↔
      l = language ∧ ¬StandsForScheme declarations language asked) ∧
    (∀ l, ((catalog.openScheme settings language asked).run session).1 =
        .error (.unknownLanguage l) ↔
      l = language ∧ ¬StandsForScheme declarations language asked) ∧
    (catalog.DeniesOnlyUnknown settings language asked session ↔
      (AreAbout declarations language → StandsForScheme declarations language asked)) := by
  obtain ⟨hn, -, rfl⟩ := ofDeclarations_eq_ok_iff.mp h
  have hopen : ∀ l, (((declared declarations).openDefault settings language).run session).1 =
      .error (.unknownLanguage l) ↔ l = language ∧ ¬AreAbout declarations language := fun l => by
    rw [← mem_languages_declared]
    exact assemble_eq_unknownLanguage_iff
  have hresolve : ∀ l, (declared declarations).resolveScheme language asked =
      .error (.unknownLanguage l) ↔
        l = language ∧ ¬StandsForScheme declarations language asked := fun l => by
    rw [resolveScheme_eq_unknownLanguage_iff, StandsForScheme, not_or, ← isSome_scheme?_declared,
      ← isSome_defaultScheme?_declared hn]
    simp
  refine ⟨mem_languages_declared, hopen, hresolve,
    fun l => run_openScheme_eq_unknownLanguage_iff.trans (hresolve l), fun hdenies habout => ?_,
    fun hstands => ?_⟩
  · refine Classical.byContradiction fun hnone => ?_
    exact hdenies.resolve language ((hresolve language).mpr ⟨rfl, hnone⟩)
      (mem_languages_declared.mpr habout)
  · -- Whatever is asked, a language that is called unknown is the one that was asked for.
    have hdeny : ∀ l, l = language ∧ ¬StandsForScheme declarations language asked →
        l ∉ (declared declarations).languages := by
      rintro l ⟨rfl, hnone⟩ hm
      exact hnone (hstands (mem_languages_declared.mp hm))
    refine ⟨fun l hl => hdeny l ((hresolve l).mp hl), fun l hl => ?_, fun l hl => ?_⟩
    · obtain ⟨rfl, habout⟩ := (hopen l).mp hl
      rwa [mem_languages_declared]
    · exact hdeny l ((hresolve l).mp (run_openScheme_eq_unknownLanguage_iff.mp hl))

/-- A scheme that is the default one, but no chain: the language is not called unknown. The one for
which nothing is declared is. -/
theorem unknownLanguage_iff_default :
    let pronouncer : Pronouncer Unit := fun _ _ _ => .answer (.ok [])
    let declarations : List (Declaration (Chinese.Romanizer Unit)) := [
      .provider ⟨"xx".toList, ['t'], .transliterator, [], .new pronouncer 1⟩,
      .scheme "xx".toList ⟨['A'], [], ['t'], "tone".toList⟩, .defaultScheme "xx".toList ['a']]
    let catalog := declared declarations
    ofDeclarations declarations = .ok catalog ∧
      catalog.DeniesOnlyUnknown .standard "xx".toList ['B'] (.start 0 ()) ∧
      ((catalog.openDefault .standard "yy".toList).run (.start 0 ())).1 =
        .error (.unknownLanguage "yy".toList) := by
  intro pronouncer declarations catalog
  have hmade : ofDeclarations declarations = .ok catalog := rfl
  obtain ⟨-, -, -, -, hdenies⟩ :=
    unknownLanguage_iff hmade .standard "xx".toList ['B'] (.start 0 ())
  obtain ⟨-, hopen, -⟩ := unknownLanguage_iff hmade .standard "yy".toList ['B'] (.start 0 ())
  refine ⟨hmade, hdenies.mpr fun _ => .inr ⟨['a'], by simp [declarations], ?_⟩,
    (hopen _).mpr ⟨rfl, ?_⟩⟩
  · exact ⟨⟨['A'], [], ['t'], "tone".toList⟩, by simp [declarations], by decide +kernel⟩
  · simp [AreAbout, declarations]

/-- A language with a provider and a scheme is called unknown, by a name that no scheme has. -/
theorem known_language_called_unknown :
    let pronouncer : Pronouncer Unit := fun _ _ _ => .answer (.ok [])
    let declarations : List (Declaration (Chinese.Romanizer Unit)) := [
      .provider ⟨"xx".toList, ['t'], .transliterator, [], .new pronouncer 1⟩,
      .scheme "xx".toList ⟨['A'], [], ['t'], "tone".toList⟩]
    let catalog := declared declarations
    ofDeclarations declarations = .ok catalog ∧ "xx".toList ∈ catalog.languages ∧
      catalog.resolveScheme "xx".toList ['B'] = .error (.unknownLanguage "xx".toList) ∧
      ¬catalog.DeniesOnlyUnknown .standard "xx".toList ['B'] (.start 0 ()) := by
  intro pronouncer declarations catalog
  have hm : "xx".toList ∈ catalog.languages := by decide +kernel
  have hresolve : catalog.resolveScheme "xx".toList ['B'] =
      .error (.unknownLanguage "xx".toList) := by decide +kernel
  exact ⟨rfl, hm, hresolve, fun hdenies => hdenies.resolve _ hresolve hm⟩

end Catalog

end Hanyu
