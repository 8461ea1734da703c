import Hanyu.Catalog.Opening
import Hanyu.Chinese.Romanizer
import Hanyu.Proofs.Declared
import Hanyu.Proofs.KeyedSorting

/-!
# Declarations in another order

Declarations come in any order: what a catalog answers is put in order when it is asked for. Only
the schemes of a language are listed as they were declared.

* `Declaration.AreRearranged`: declarations in another order, in which the schemes of each language
  keep theirs.
* `Catalog.HoldsSame`: two catalogs hold the same entries, and the schemes of each language in the
  same order. Catalogs of rearranged declarations without repetitions do
  (`Catalog.holdsSame_declared`).
* `Catalog.HoldsSame.answersAlike`: such catalogs answer alike.
* `Catalog.HoldsSame.missingProvider?_eq`, `Catalog.HoldsSame.missingDefault?_eq`: and they are
  refused alike.
* `Catalog.buildsAlike_of_rearranged`: rearranging declarations without repetitions changes nothing
  in what comes of them.
-/

namespace Hanyu

variable {σ π : Type}

/-! ## Rearranged declarations -/

namespace Declaration

/-- Whether a scheme of a language is declared. -/
def isSchemeOf (language : Text) : Declaration π → Bool
  | scheme l _ => l == language
  | _ => false

/-- The declarations in another order, in which the schemes of each language keep theirs. -/
structure AreRearranged (declarations others : List (Declaration π)) : Prop where
  perm : declarations.Perm others
  schemes : ∀ language, declarations.filter (isSchemeOf language) =
    others.filter (isSchemeOf language)

/-- The schemes of a language are what the declarations of such schemes declare. -/
theorem filter_filterMap_scheme? (declarations : List (Declaration π)) (language : Text) :
    (declarations.filterMap scheme?).filter (fun entry => entry.1 = language) =
      (declarations.filter (isSchemeOf language)).filterMap scheme? := by
  rw [List.filter_filterMap, List.filterMap_filter]
  refine List.filterMap_congr fun declaration _ => ?_
  cases declaration with
  | scheme l s => by_cases h : l = language <;> simp [scheme?, isSchemeOf, h]
  | _ => simp [scheme?, isSchemeOf]

end Declaration

/-- What tells the providers of a catalog apart. -/
def ProviderEntry.place (entry : ProviderEntry π) : Text × Kind × Text :=
  (entry.language, entry.kind, entry.name)

namespace Catalog

/-- Two catalogs hold the same entries. Those that have a place in common, as the schemes of a
language have, come in the same order. -/
structure HoldsSame (catalog other : Catalog π) : Prop where
  providers : Rearranged ProviderEntry.place catalog.providers other.providers
  chains : Rearranged Chain.language catalog.chains other.chains
  schemes : Rearranged Prod.fst catalog.schemes other.schemes
  defaults : Rearranged Prod.fst catalog.defaults other.defaults

/-- Without repetitions only schemes have a place in common. -/
theorem holdsSame_declared {declarations others : List (Declaration π)}
    (distinct : (declarations.map Declaration.key).Nodup)
    (h : Declaration.AreRearranged declarations others) :
    HoldsSame (declared declarations) (declared others) where
  providers := by
    refine .of_perm (h.perm.filterMap _) fun a ha b hb hab => ?_
    obtain ⟨hlanguage, hplace⟩ := Prod.mk.inj hab
    obtain ⟨hkind, hname⟩ := Prod.mk.inj hplace
    have hkey : (Declaration.provider a).key = (Declaration.provider b).key := by
      simp only [Declaration.key, hlanguage, hkind, hname]
    cases Declaration.eq_of_key_eq distinct (mem_providers_declared.mp ha)
      (mem_providers_declared.mp hb) hkey
    rfl
  chains := by
    refine .of_perm (h.perm.filterMap _) fun a ha b hb hab => ?_
    cases Declaration.eq_of_key_eq distinct (mem_chains_declared.mp ha)
      (mem_chains_declared.mp hb) (congrArg Declaration.Key.chain hab)
    rfl
  schemes :=
    { perm := h.perm.filterMap _
      filter_eq := fun language => by
        change (declarations.filterMap Declaration.scheme?).filter _ =
          (others.filterMap Declaration.scheme?).filter _
        rw [Declaration.filter_filterMap_scheme?, Declaration.filter_filterMap_scheme?, h.schemes] }
  defaults := by
    refine .of_perm (h.perm.filterMap _) fun a ha b hb hab => ?_
    have hd := Declaration.eq_of_key_eq distinct (mem_defaults_declared.mp ha)
      (mem_defaults_declared.mp hb) (congrArg Declaration.Key.defaultScheme hab)
    rw [Declaration.defaultScheme.injEq] at hd
    exact Prod.ext hd.1 hd.2

/-! ## Orders of entries -/

/-- The providers of a language are listed by kind and name. -/
theorem ordersBy_listedBefore :
    OrdersBy (fun entry : ProviderEntry π => (entry.kind, entry.name)) listedBefore where
  total a b := by
    have hnames := (ordersBy_notAfter (ProviderEntry.name (π := π))).total a b
    cases hka : a.kind <;> cases hkb : b.kind <;> simp_all [listedBefore, Kind.rank]
  trans a b c := by
    have hnames := (ordersBy_notAfter (ProviderEntry.name (π := π))).trans a b c
    cases hka : a.kind <;> cases hkb : b.kind <;> cases hkc : c.kind <;>
      simp_all [listedBefore, Kind.rank]
  tied_iff a b := by
    have hnames := (ordersBy_notAfter (ProviderEntry.name (π := π))).tied_iff a b
    cases hka : a.kind <;> cases hkb : b.kind <;> simp_all [listedBefore, Kind.rank]

theorem lookup_eq {α : Type} (pairs : List (Text × α)) (language : Text) :
    pairs.lookup language = (pairs.find? fun pair => pair.1 == language).map Prod.snd := by
  induction pairs with
  | nil => rfl
  | cons pair pairs ih =>
    rw [List.lookup_cons, List.find?_cons, ih, BEq.comm (a := pair.1)]
    cases language == pair.1 <;> rfl

/-! ## Answers -/

/-- Two catalogs give the same answers, and open the same pipelines. -/
structure AnswersAlike [Provider σ π] (catalog other : Catalog π) : Prop where
  languages : catalog.languages = other.languages
  provider? : ∀ language kind name,
    catalog.provider? language kind name = other.provider? language kind name
  providersOf : ∀ language, catalog.providersOf language = other.providersOf language
  providersWith : ∀ language capability,
    catalog.providersWith language capability = other.providersWith language capability
  schemesOf : ∀ language, catalog.schemesOf language = other.schemesOf language
  scheme? : ∀ language name, catalog.scheme? language name = other.scheme? language name
  defaultScheme? : ∀ language, catalog.defaultScheme? language = other.defaultScheme? language
  resolveScheme : ∀ language name,
    catalog.resolveScheme language name = other.resolveScheme language name
  describe : catalog.describe = other.describe
  openDefault : ∀ settings language, (catalog.openDefault settings language :
    Attempt Refusal (Session σ) (Pipeline π)) = other.openDefault settings language
  openScheme : ∀ settings language name, (catalog.openScheme settings language name :
    Attempt Refusal (Session σ) (Pipeline π)) = other.openScheme settings language name

namespace HoldsSame

variable {catalog other : Catalog π} (same : catalog.HoldsSame other)
include same

theorem provider?_eq (language : Text) (kind : Kind) (name : Text) :
    catalog.provider? language kind name = other.provider? language kind name := by
  refine same.providers.find?_eq (k := (language, kind, name)) fun entry h => ?_
  simp only [Bool.and_eq_true, beq_iff_eq] at h
  simp only [ProviderEntry.place, h]

theorem chain?_eq (language : Text) : catalog.chain? language = other.chain? language :=
  same.chains.find?_eq fun _ => beq_iff_eq.mp

theorem lookup_defaults_eq (language : Text) :
    catalog.defaults.lookup language = other.defaults.lookup language := by
  rw [lookup_eq, lookup_eq, same.defaults.find?_eq fun _ => beq_iff_eq.mp]

theorem languages_eq : catalog.languages = other.languages := by
  have hperm := ((same.providers.perm.map ProviderEntry.language).append
    (same.chains.perm.map Chain.language)).append (same.schemes.perm.map Prod.fst)
  have hsame : Rearranged id (catalog.providers.map ProviderEntry.language ++
      catalog.chains.map Chain.language ++ catalog.schemes.map Prod.fst) _ :=
    .of_perm hperm fun _ _ _ _ => id
  exact congrArg dropRepeats (hsame.sortBy_eq (ordersBy_notAfter id))

theorem providersOf_eq (language : Text) :
    catalog.providersOf language = other.providersOf language := by
  have hof : Rearranged (fun entry : ProviderEntry π => (entry.kind, entry.name))
      (catalog.providers.filter fun entry => entry.language == language)
      (other.providers.filter fun entry => entry.language == language) := by
    refine ⟨same.providers.perm.filter _, fun k => ?_⟩
    rw [List.filter_filter, List.filter_filter]
    refine same.providers.filter_eq_of_key (k := (language, k)) fun entry h => ?_
    simp only [Bool.and_eq_true, decide_eq_true_eq, beq_iff_eq] at h
    simp only [ProviderEntry.place, h]
  exact hof.sortBy_eq ordersBy_listedBefore

theorem schemesOf_eq (language : Text) : catalog.schemesOf language = other.schemesOf language := by
  rw [schemesOf, schemesOf, same.schemes.filter_eq_of_key fun _ => beq_iff_eq.mp]

theorem schemeNamed?_eq (language name : Text) :
    catalog.schemeNamed? language name = other.schemeNamed? language name := by
  rw [schemeNamed?, schemeNamed?, same.schemesOf_eq]

theorem defaultScheme?_eq (language : Text) :
    catalog.defaultScheme? language = other.defaultScheme? language := by
  rw [defaultScheme?, defaultScheme?, same.lookup_defaults_eq]
  exact congrArg _ (funext fun name => same.schemeNamed?_eq language name.trim)

theorem resolveScheme_eq (language name : Text) :
    catalog.resolveScheme language name = other.resolveScheme language name := by
  rw [resolveScheme, resolveScheme, scheme?, scheme?, same.schemeNamed?_eq, same.defaultScheme?_eq]

theorem assemble_eq (settings : Settings) (language : Text) (transliterator : Option Text) :
    catalog.assemble settings language transliterator =
      other.assemble settings language transliterator := by
  have hchain : catalog.chainOf language = other.chainOf language := by
    rw [chainOf, chainOf, same.chain?_eq, same.languages_eq]
  have hproviders : catalog.instantiate language transliterator =
      other.instantiate language transliterator := by
    funext link
    simp only [instantiate, same.provider?_eq]
  rw [assemble, assemble, hchain, hproviders]

/-- Catalogs that hold the same answer alike. -/
theorem answersAlike [Provider σ π] : catalog.AnswersAlike other where
  languages := same.languages_eq
  provider? := same.provider?_eq
  providersOf := same.providersOf_eq
  providersWith language capability := by rw [providersWith, providersWith, same.providersOf_eq]
  schemesOf := same.schemesOf_eq
  scheme? language name := same.schemeNamed?_eq language name.trim
  defaultScheme? := same.defaultScheme?_eq
  resolveScheme := same.resolveScheme_eq
  describe := by
    unfold Catalog.describe
    rw [same.languages_eq, same.providers.perm.length_eq]
  openDefault settings language := by rw [openDefault, openDefault, same.assemble_eq]
  openScheme settings language name := by
    simp only [openScheme, same.resolveScheme_eq, same.assemble_eq]

/-! ## Refusals -/

/-- The need that is reported as not met is the same one. -/
theorem missingProvider?_eq : catalog.missingProvider? = other.missingProvider? := by
  have hneeds : catalog.needs = other.needs := by
    rw [needs, needs, byLanguage, byLanguage, byLanguage, byLanguage,
      same.chains.sortBy_eq (ordersBy_notAfter Chain.language),
      same.schemes.sortBy_eq (ordersBy_notAfter Prod.fst)]
  simp only [missingProvider?, hneeds, same.provider?_eq]

/-- The default scheme that is reported as missing is the same one. -/
theorem missingDefault?_eq : catalog.missingDefault? = other.missingDefault? := by
  simp only [missingDefault?, byLanguage, same.schemeNamed?_eq,
    same.defaults.sortBy_eq (ordersBy_notAfter Prod.fst)]

end HoldsSame

/-- Both are refused for the same reason, or both are catalogs, which answer alike. -/
inductive BuildsAlike [Provider σ π] :
    Except Refusal (Catalog π) → Except Refusal (Catalog π) → Prop where
  | refused (refusal : Refusal) : BuildsAlike (.error refusal) (.error refusal)
  | made {catalog other : Catalog π} (h : catalog.AnswersAlike other) :
    BuildsAlike (.ok catalog) (.ok other)

/-- **Any order of declarations.** When nothing is declared twice, declarations in another order
are refused for the same reason, or make up a catalog that answers in the same way, provided that
the schemes of each language keep their order. -/
theorem buildsAlike_of_rearranged [Provider σ π] {declarations others : List (Declaration π)}
    (distinct : (declarations.map Declaration.key).Nodup)
    (h : Declaration.AreRearranged declarations others) :
    BuildsAlike (ofDeclarations declarations) (ofDeclarations others) := by
  have same := holdsSame_declared distinct h
  have distinct' : (others.map Declaration.key).Nodup := (h.perm.map _).nodup_iff.mp distinct
  rw [ofDeclarations_of_nodup distinct, ofDeclarations_of_nodup distinct', check, check,
    ← same.missingProvider?_eq, ← same.missingDefault?_eq]
  cases (declared declarations).missingProvider? with
  | some need => exact .refused _
  | none =>
    cases (declared declarations).missingDefault? with
    | some default => exact .refused _
    | none => exact .made same.answersAlike

/-- Schemes that are declared before their providers, and a default scheme that is declared before
all of them: the catalog lists the same schemes. With a chain that has no provider, and a default
name that no scheme has, both refuse the chain. -/
theorem buildsAlike_of_rearranged_two :
    let pronouncer : Pronouncer Unit := fun _ _ _ => .answer (.ok [])
    let scheme (name : Char) : Scheme := ⟨[name], [], ['t'], "tone".toList⟩
    let provider (language : Text) : Declaration (Chinese.Romanizer Unit) :=
      .provider ⟨language, ['t'], .transliterator, [], .new pronouncer 1⟩
    let first := [provider ['x'], .scheme ['y'] (scheme 'C'), .defaultScheme ['x'] ['b']]
    let second := [.scheme ['x'] (scheme 'B'), .scheme ['x'] (scheme 'A'), provider ['y']]
    let broken : List (Declaration (Chinese.Romanizer Unit)) :=
      [.defaultScheme ['y'] ['d'], .chain ⟨['z'], [⟨.tokenizer, ['s']⟩]⟩]
    (∃ catalog other, ofDeclarations (first ++ second) = .ok catalog ∧
        ofDeclarations (second ++ first) = .ok other ∧ catalog.AnswersAlike other ∧
        other.schemesOf ['x'] = [scheme 'B', scheme 'A'] ∧
        other.resolveScheme ['x'] ['c'] = .ok (scheme 'B')) ∧
      BuildsAlike (ofDeclarations (first ++ second ++ broken))
        (ofDeclarations (broken ++ (first ++ second))) ∧
      ofDeclarations (broken ++ (first ++ second)) =
        .error (.unknownProvider ['z'] .tokenizer ['s']) := by
  intro pronouncer scheme provider first second broken
  have hmoved : Declaration.AreRearranged (first ++ second) (second ++ first) := by
    refine ⟨List.perm_append_comm, fun language => ?_⟩
    by_cases hx : language = ['x']
    · subst hx
      rfl
    · simp [first, second, provider, Declaration.isSchemeOf, List.filter_cons, Ne.symm hx]
  have hbroken : Declaration.AreRearranged (first ++ second ++ broken)
      (broken ++ (first ++ second)) :=
    ⟨List.perm_append_comm, fun language => by simp [broken, Declaration.isSchemeOf]⟩
  have hdistinct : ((first ++ second ++ broken).map Declaration.key).Nodup := by decide +kernel
  have hfirst : ofDeclarations (first ++ second) = .ok (declared (first ++ second)) := rfl
  have hsecond : ofDeclarations (second ++ first) = .ok (declared (second ++ first)) := rfl
  have hmade : BuildsAlike (ofDeclarations (first ++ second)) (ofDeclarations (second ++ first)) :=
    buildsAlike_of_rearranged (by decide +kernel) hmoved
  rw [hfirst, hsecond] at hmade
  cases hmade with
  | made halike =>
    exact ⟨⟨_, _, hfirst, hsecond, halike, rfl, rfl⟩, buildsAlike_of_rearranged hdistinct hbroken,
      rfl⟩

end Catalog

end Hanyu
