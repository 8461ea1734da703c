import Hanyu.Catalog.Opening
import Hanyu.Proofs.Failure
import Hanyu.Proofs.SchemeNames

/-!
# Pipelines of declared chains

Declarations are judged when a catalog is made of them. Whatever a catalog then opens pipelines for,
it has the providers that they need.

* `Catalog.instantiate_of_declared`: a provider that is declared for a link can be had.
* `Catalog.assemble_declared`: a declared chain is assembled, in its order.
* `Catalog.openScheme_error`: where the refusal of a pipeline for a scheme comes from.
* `Catalog.run_openPipeline_ne_unknownProvider`: no provider is missing when a pipeline is opened.
* `Declaration.areJudged`: what declarations are refused for, and what is sure after that.
-/

namespace Hanyu

variable {σ π : Type}

/-- An entry is the provider for a link of a chain of a language. -/
structure ProviderEntry.IsFor (entry : ProviderEntry π) (language : Text)
    (transliterator : Option Text) (link : ChainLink) : Prop where
  language : entry.language = language
  kind : entry.kind = link.kind
  name : entry.name = Catalog.nameFor transliterator link

/-- The transliterator that is to stand in for others, if there is one, is that of a scheme. -/
def Declaration.IsOfScheme (declarations : List (Declaration π)) (language : Text)
    (transliterator : Option Text) : Prop :=
  ∀ name ∈ transliterator, ∃ scheme, .scheme language scheme ∈ declarations ∧
    scheme.provider = name

theorem Declaration.isOfScheme_none (declarations : List (Declaration π)) (language : Text) :
    IsOfScheme declarations language none := fun _ h => by cases h

theorem Declaration.isOfScheme_some {declarations : List (Declaration π)} {language : Text}
    {scheme : Scheme} (h : .scheme language scheme ∈ declarations) :
    IsOfScheme declarations language (some scheme.provider) :=
  fun _ hname => ⟨scheme, h, Option.some.inj hname⟩

namespace Catalog

theorem nameFor_none (link : ChainLink) : nameFor none link = link.name := by
  rw [nameFor]
  cases link.kind <;> rfl

variable {declarations : List (Declaration π)} {language : Text} {transliterator : Option Text}

/-- A provider that is declared for a link can be had. -/
theorem instantiate_of_declared {link : ChainLink}
    (h : ∃ entry, .provider entry ∈ declarations ∧ entry.IsFor language transliterator link) :
    ∃ entry, (.provider entry ∈ declarations ∧ entry.IsFor language transliterator link) ∧
      (declared declarations).instantiate language transliterator link = .ok entry.fresh := by
  obtain ⟨entry, hm, hfor⟩ := h
  have hsome : ((declared declarations).provider? language link.kind
      (nameFor transliterator link)).isSome = true :=
    isSome_provider?_iff.mpr ⟨entry, by simpa using hm, hfor.language, hfor.kind, hfor.name⟩
  -- Whichever entry is found, it is one for the link as well.
  obtain ⟨found, hfound⟩ := Option.isSome_iff_exists.mp hsome
  obtain ⟨hm, hlanguage, hkind, hname⟩ := provider?_eq_some hfound
  refine ⟨found, ⟨by simpa using hm, hlanguage, hkind, hname⟩, ?_⟩
  simp only [instantiate, hfound]

/-- When the provider for every link can be had, those for all of them can. -/
theorem mapM_instantiate {catalog : Catalog π} {P : ChainLink → ProviderEntry π → Prop}
    {links : List ChainLink}
    (h : ∀ link ∈ links, ∃ entry, P link entry ∧
      catalog.instantiate language transliterator link = .ok entry.fresh) :
    ∃ entries, List.Forall₂ P links entries ∧
      links.mapM (catalog.instantiate language transliterator) =
        .ok (entries.map ProviderEntry.fresh) := by
  induction links with
  | nil => exact ⟨[], .nil, rfl⟩
  | cons link links ih =>
    obtain ⟨⟨entry, hentry, hfirst⟩, hlinks⟩ := List.forall_mem_cons.mp h
    obtain ⟨entries, hentries, hrest⟩ := ih hlinks
    refine ⟨entry :: entries, .cons hentry hentries, ?_⟩
    rw [List.mapM_cons, hfirst, hrest]
    rfl

/-! ## Complete declarations -/

section Complete

variable (complete : Declaration.AreComplete declarations)
include complete

/-- Every link of a declared chain has its provider, also when that of a scheme stands in for a
transliterator. -/
theorem exists_isFor {chain : Chain} (hc : .chain chain ∈ declarations)
    (ht : Declaration.IsOfScheme declarations chain.language transliterator) :
    ∀ link ∈ chain.links, ∃ entry, .provider entry ∈ declarations ∧
      entry.IsFor chain.language transliterator link := by
  rintro ⟨kind, name⟩ hlink
  obtain ⟨entry, hm, hlanguage, hkind, hname⟩ := complete.chains chain hc _ hlink
  cases kind with
  | tokenizer => exact ⟨entry, hm, hlanguage, hkind, hname⟩
  | transliterator =>
    cases transliterator with
    | none => exact ⟨entry, hm, hlanguage, hkind, hname⟩
    | some other =>
      obtain ⟨scheme, hs, rfl⟩ := ht other rfl
      obtain ⟨entry, hm, hlanguage, hkind, hname⟩ := complete.schemes _ scheme hs
      exact ⟨entry, hm, hlanguage, hkind, hname⟩

/-- A declared chain is assembled, in its order. -/
theorem assemble_declared {chain : Chain} (hc : .chain chain ∈ declarations)
    (hchain : (declared declarations).chain? chain.language = some chain)
    (ht : Declaration.IsOfScheme declarations chain.language transliterator) (settings : Settings) :
    ∃ entries, List.Forall₂ (fun link (entry : ProviderEntry π) => .provider entry ∈ declarations ∧
        entry.IsFor chain.language transliterator link) chain.links entries ∧
      (declared declarations).assemble settings chain.language transliterator =
        .ok (.ofProviders chain.language settings.chunkLimit
          (entries.map ProviderEntry.fresh)) := by
  obtain ⟨entries, hentries, hmap⟩ := mapM_instantiate fun link hlink =>
    instantiate_of_declared (exists_isFor complete hc ht link hlink)
  refine ⟨entries, hentries, ?_⟩
  rw [assemble, chainOf, hchain]
  simp only [bind, Except.bind, hmap]
  rfl

theorem assemble_ne_unknownProvider
    (ht : Declaration.IsOfScheme declarations language transliterator) (settings : Settings)
    (l : Text) (kind : Kind) (name : Text) :
    (declared declarations).assemble settings language transliterator ≠
      .error (.unknownProvider l kind name) := by
  cases hc : (declared declarations).chain? language with
  | some chain =>
    have hm : .chain chain ∈ declarations := by simpa using List.mem_of_find?_eq_some hc
    obtain rfl : chain.language = language := by simpa using List.find?_some hc
    obtain ⟨entries, -, h⟩ := assemble_declared complete hm hc ht settings
    simp [h]
  | none =>
    rw [assemble, chainOf, hc]
    simp only
    split <;> simp [bind, Except.bind]

end Complete

/-! ## Opening -/

theorem resolveScheme_ne_unknownProvider (catalog : Catalog π) (language asked l : Text)
    (kind : Kind) (name : Text) :
    catalog.resolveScheme language asked ≠ .error (.unknownProvider l kind name) := by
  rw [resolveScheme]
  split <;> simp

variable [Provider σ π]

/-- A pipeline for a scheme is refused for the scheme, for the chain, or because it cannot be set to
the scheme. -/
theorem openScheme_error {catalog : Catalog π} {settings : Settings} {asked : Text}
    {session : Session σ} {refusal : Refusal}
    (h : ((catalog.openScheme settings language asked).run session).1 = .error refusal) :
    catalog.resolveScheme language asked = .error refusal ∨
      ∃ scheme, catalog.resolveScheme language asked = .ok scheme ∧
        (catalog.assemble settings language (some scheme.provider) = .error refusal ∨
          ∃ fault, refusal = .pipeline fault) := by
  have hrun : catalog.openScheme settings language asked session = (.error refusal, _) :=
    Prod.ext h rfl
  rcases Attempt.bind_error hrun with hr | ⟨scheme, t, hr, hrun⟩
  · exact .inl (congrArg Prod.fst hr)
  refine .inr ⟨scheme, congrArg Prod.fst hr, ?_⟩
  rcases Attempt.bind_error hrun with ha | ⟨pipeline, u, -, hconfigured⟩
  · exact .inl (congrArg Prod.fst ha)
  · have hfailed := congrArg Prod.fst hconfigured
    rw [configured] at hfailed
    split at hfailed <;> cases hfailed
    exact .inr ⟨_, rfl⟩

/-- No provider is missing when a pipeline is opened. -/
theorem run_openPipeline_ne_unknownProvider (complete : Declaration.AreComplete declarations)
    (settings : Settings) (scheme : Option Text) (session : Session σ) (l : Text) (kind : Kind)
    (name : Text) :
    (((declared declarations).openPipeline settings language scheme).run session).1 ≠
      .error (.unknownProvider l kind name) := by
  cases scheme with
  | none =>
    exact assemble_ne_unknownProvider complete (Declaration.isOfScheme_none _ _) settings l kind
      name
  | some asked =>
    intro h
    rcases openScheme_error h with hr | ⟨scheme, hr, ha | ⟨fault, hfault⟩⟩
    · exact resolveScheme_ne_unknownProvider _ _ _ l kind name hr
    · have hm := mem_of_resolveScheme hr
      exact assemble_ne_unknownProvider complete (Declaration.isOfScheme_some hm) settings l kind
        name ha
    · cases hfault

/-- A declared chain is opened when no scheme is asked for. -/
theorem run_openPipeline_none (complete : Declaration.AreComplete declarations)
    {chain : Chain} (hc : .chain chain ∈ declarations)
    (hchain : (declared declarations).chain? chain.language = some chain) (settings : Settings)
    (session : Session σ) :
    ∃ entries, List.Forall₂ (fun link (entry : ProviderEntry π) => .provider entry ∈ declarations ∧
        entry.IsFor chain.language none link) chain.links entries ∧
      ((declared declarations).openPipeline settings chain.language none).run session =
        (.ok (.ofProviders chain.language settings.chunkLimit
          (entries.map ProviderEntry.fresh)), session) := by
  obtain ⟨entries, hentries, h⟩ := assemble_declared complete hc hchain
    (Declaration.isOfScheme_none declarations chain.language) settings
  exact ⟨entries, hentries, congrArg (·, session) h⟩

end Catalog

/-! ## The judgement on declarations -/

/-- What declarations are refused for, and what is sure of the catalog that they make up. -/
structure Declaration.AreJudged [Provider σ π] (declarations : List (Declaration π)) : Prop where
  /-- They are refused for a repetition exactly when two of them have the same key. -/
  duplicate : (∃ what language name,
      Catalog.ofDeclarations declarations = .error (.duplicate what language name)) ↔
    ¬(declarations.map key).Nodup
  /-- Of the declarations with the key of an earlier one, the first is reported. -/
  first : ∀ before declaration later, declarations = before ++ declaration :: later →
    (before.map key).Nodup → declaration.key ∈ before.map key →
      Catalog.ofDeclarations declarations = .error declaration.refusal
  /-- When no key is repeated, they make up a catalog exactly when all that they refer to is
  declared. -/
  complete : (declarations.map key).Nodup →
    ((∃ catalog, Catalog.ofDeclarations declarations = .ok catalog) ↔ AreComplete declarations)
  /-- No provider is missing for a pipeline, with a scheme or without. -/
  provided : ∀ catalog, Catalog.ofDeclarations declarations = .ok catalog →
    ∀ settings language scheme (session : Session σ) language' kind name,
      ((catalog.openPipeline settings language scheme).run session).1 ≠
        .error (.unknownProvider language' kind name)
  /-- Every declared chain makes up a pipeline of the providers that its links name, in their
  order. -/
  assembled : ∀ catalog, Catalog.ofDeclarations declarations = .ok catalog →
    ∀ chain, .chain chain ∈ declarations → ∀ settings (session : Session σ), ∃ entries,
      List.Forall₂ (fun link (entry : ProviderEntry π) => .provider entry ∈ declarations ∧
        entry.language = chain.language ∧ entry.kind = link.kind ∧ entry.name = link.name)
        chain.links entries ∧
      (catalog.openPipeline settings chain.language none).run session =
        (.ok (.ofProviders chain.language settings.chunkLimit
          (entries.map ProviderEntry.fresh)), session)

namespace Declaration

variable {declarations : List (Declaration π)}

/-- The chain of a language is the declared one. -/
theorem chain?_declared (h : (declarations.map key).Nodup) {chain : Chain}
    (hc : .chain chain ∈ declarations) :
    (Catalog.declared declarations).chain? chain.language = some chain := by
  have hsome : ((Catalog.declared declarations).chain? chain.language).isSome = true :=
    Catalog.isSome_chain?_iff.mpr ⟨chain, by simpa using hc, rfl⟩
  obtain ⟨found, hfound⟩ := Option.isSome_iff_exists.mp hsome
  have hm : .chain found ∈ declarations := by simpa using List.mem_of_find?_eq_some hfound
  have hlanguage : found.language = chain.language := by simpa using List.find?_some hfound
  cases eq_of_key_eq h hm hc (congrArg Key.chain hlanguage)
  exact hfound

/-- **Declarations are judged exactly.** They make up a catalog when no key is repeated and all that
they refer to is declared, and then no pipeline lacks a provider. -/
theorem areJudged [Provider σ π] (declarations : List (Declaration π)) :
    AreJudged (σ := σ) declarations where
  duplicate := Catalog.ofDeclarations_eq_duplicate_iff
  first := by
    rintro before declaration later rfl hbefore hkey
    exact Catalog.ofDeclarations_of_repeat hbefore hkey
  complete := fun hn => by simp [Catalog.ofDeclarations_eq_ok_iff, hn]
  provided := by
    intro catalog h settings language scheme session language' kind name
    obtain ⟨-, hcomplete, rfl⟩ := Catalog.ofDeclarations_eq_ok_iff.mp h
    exact Catalog.run_openPipeline_ne_unknownProvider hcomplete settings scheme session language'
      kind name
  assembled := by
    intro catalog h chain hc settings session
    obtain ⟨hn, hcomplete, rfl⟩ := Catalog.ofDeclarations_eq_ok_iff.mp h
    obtain ⟨entries, hentries, hopen⟩ :=
      Catalog.run_openPipeline_none hcomplete hc (chain?_declared hn hc) settings session
    refine ⟨entries, hentries.imp fun link entry hentry => ?_, hopen⟩
    obtain ⟨hm, hfor⟩ := hentry
    exact ⟨hm, hfor.language, hfor.kind, hfor.name.trans (Catalog.nameFor_none link)⟩

end Declaration

end Hanyu
