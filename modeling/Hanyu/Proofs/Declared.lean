import Hanyu.Catalog
import Mathlib.Data.List.Induction
import Mathlib.Data.List.Nodup

/-!
# What declarations make of a catalog

A catalog holds what was declared, in the order in which it was declared. A declaration that has
the key of an earlier one is refused, and a catalog is refused as a whole when something that is
named in it is not there.

* `Catalog.declare_cases`: a declaration is refused exactly when its key is taken.
* `Catalog.foldlM_declare`, `Catalog.foldlM_declare_repeats`: declarations with different keys are
  all taken, and of the others the first that repeats a key is reported.
* `Catalog.check_eq_ok_iff`: a catalog is accepted exactly when nothing is missing in it.
* `Catalog.ofDeclarations_eq_duplicate_iff`, `Catalog.ofDeclarations_eq_ok_iff`: when declarations
  are refused for a repetition, and when they make up a catalog.
-/

namespace Hanyu

variable {π : Type}

/-! ## Keys -/

/-- What can be declared once only. Names of schemes are taken whatever the case of their ASCII
letters. -/
inductive Declaration.Key where
  | provider (language : Text) (kind : Kind) (name : Text)
  | chain (language : Text)
  | scheme (language folded : Text)
  | defaultScheme (language : Text)
deriving DecidableEq

namespace Declaration

/-- What a declaration takes. -/
def key : Declaration π → Key
  | provider entry => .provider entry.language entry.kind entry.name
  | chain c => .chain c.language
  | scheme language s => .scheme language s.name.foldCase
  | defaultScheme language _ => .defaultScheme language

/-- How a declaration is refused whose key is taken. -/
def refusal : Declaration π → Refusal
  | provider entry => .duplicate .provider entry.language entry.name
  | chain c => .duplicate .chain c.language c.language
  | scheme language s => .duplicate .scheme language s.name
  | defaultScheme language name => .duplicate .defaultScheme language name

/-- The provider that is declared. -/
def provider? : Declaration π → Option (ProviderEntry π)
  | provider entry => some entry
  | _ => none

/-- The chain that is declared. -/
def chain? : Declaration π → Option Chain
  | chain c => some c
  | _ => none

/-- The scheme that is declared, with its language. -/
def scheme? : Declaration π → Option (Text × Scheme)
  | scheme language s => some (language, s)
  | _ => none

/-- The default scheme that is declared, with its language. -/
def default? : Declaration π → Option (Text × Text)
  | defaultScheme language name => some (language, name)
  | _ => none

variable {declaration : Declaration π}

@[simp] theorem provider?_eq_some_iff {entry : ProviderEntry π} :
    declaration.provider? = some entry ↔ declaration = .provider entry := by
  cases declaration <;> simp [provider?]

@[simp] theorem chain?_eq_some_iff {c : Chain} :
    declaration.chain? = some c ↔ declaration = .chain c := by
  cases declaration <;> simp [chain?]

@[simp] theorem scheme?_eq_some_iff {s : Text × Scheme} :
    declaration.scheme? = some s ↔ declaration = .scheme s.1 s.2 := by
  cases declaration <;> simp [scheme?, Prod.ext_iff]

@[simp] theorem default?_eq_some_iff {d : Text × Text} :
    declaration.default? = some d ↔ declaration = .defaultScheme d.1 d.2 := by
  cases declaration <;> simp [default?, Prod.ext_iff]

/-! The keys of some declarations tell what is declared. -/

section Keys

variable {declarations : List (Declaration π)} {language : Text}

theorem provider_mem_keys {kind : Kind} {name : Text} :
    Key.provider language kind name ∈ declarations.map key ↔
      ∃ entry, .provider entry ∈ declarations ∧ entry.language = language ∧ entry.kind = kind ∧
        entry.name = name := by
  rw [List.mem_map]
  constructor
  · rintro ⟨_ | _ | _ | _, hm, hk⟩ <;> cases hk
    exact ⟨_, hm, rfl, rfl, rfl⟩
  · rintro ⟨entry, hm, rfl, rfl, rfl⟩
    exact ⟨_, hm, rfl⟩

theorem chain_mem_keys :
    Key.chain language ∈ declarations.map key ↔
      ∃ c, .chain c ∈ declarations ∧ c.language = language := by
  rw [List.mem_map]
  constructor
  · rintro ⟨_ | _ | _ | _, hm, hk⟩ <;> cases hk
    exact ⟨_, hm, rfl⟩
  · rintro ⟨c, hm, rfl⟩
    exact ⟨_, hm, rfl⟩

theorem scheme_mem_keys {folded : Text} :
    Key.scheme language folded ∈ declarations.map key ↔
      ∃ s, .scheme language s ∈ declarations ∧ s.name.foldCase = folded := by
  rw [List.mem_map]
  constructor
  · rintro ⟨_ | _ | _ | _, hm, hk⟩ <;> cases hk
    exact ⟨_, hm, rfl⟩
  · rintro ⟨s, hm, rfl⟩
    exact ⟨_, hm, rfl⟩

theorem default_mem_keys :
    Key.defaultScheme language ∈ declarations.map key ↔
      ∃ name, .defaultScheme language name ∈ declarations := by
  rw [List.mem_map]
  constructor
  · rintro ⟨_ | _ | _ | _, hm, hk⟩ <;> cases hk
    exact ⟨_, hm⟩
  · rintro ⟨name, hm⟩
    exact ⟨_, hm, rfl⟩

end Keys

/-- Declarations with the same key are the same one when no key is repeated. -/
theorem eq_of_key_eq {declarations : List (Declaration π)} (h : (declarations.map key).Nodup)
    {a b : Declaration π} (ha : a ∈ declarations) (hb : b ∈ declarations) (hkey : a.key = b.key) :
    a = b :=
  List.inj_on_of_nodup_map h ha hb hkey

/-- A list in which a key is repeated has a first place where that happens. -/
theorem exists_first_repeat {declarations : List (Declaration π)}
    (h : ¬(declarations.map key).Nodup) :
    ∃ before declaration later, declarations = before ++ declaration :: later ∧
      (before.map key).Nodup ∧ declaration.key ∈ before.map key := by
  induction declarations using List.reverseRecOn with
  | nil => exact absurd List.nodup_nil h
  | append_singleton declarations last ih =>
    by_cases hn : (declarations.map key).Nodup
    · refine ⟨declarations, last, [], rfl, hn, Classical.byContradiction fun hlast => h ?_⟩
      rw [List.map_append, List.map_singleton, List.nodup_append]
      refine ⟨hn, List.nodup_cons.mpr ⟨List.not_mem_nil, .nil⟩, fun a ha b hb hab => hlast ?_⟩
      rwa [hab, List.mem_singleton.mp hb] at ha
    · obtain ⟨before, declaration, later, rfl, hbefore, hkey⟩ := ih hn
      exact ⟨before, declaration, later ++ [last], by simp, hbefore, hkey⟩

end Declaration

namespace Catalog

/-! ## Lookups -/

section Lookups

variable {catalog : Catalog π} {language name : Text} {kind : Kind}

theorem isSome_provider?_iff :
    (catalog.provider? language kind name).isSome = true ↔
      ∃ entry ∈ catalog.providers, entry.language = language ∧ entry.kind = kind ∧
        entry.name = name := by
  simp [provider?, List.find?_isSome, and_assoc]

theorem isSome_chain?_iff :
    (catalog.chain? language).isSome = true ↔ ∃ chain ∈ catalog.chains, chain.language = language := by
  simp [chain?, List.find?_isSome]

theorem mem_schemesOf {scheme : Scheme} :
    scheme ∈ catalog.schemesOf language ↔ (language, scheme) ∈ catalog.schemes := by
  simp only [schemesOf, List.mem_map, List.mem_filter, beq_iff_eq]
  constructor
  · rintro ⟨⟨_, _⟩, ⟨hm, rfl⟩, rfl⟩
    exact hm
  · exact fun hm => ⟨_, ⟨hm, rfl⟩, rfl⟩

theorem isSome_schemeNamed?_iff :
    (catalog.schemeNamed? language name).isSome = true ↔
      ∃ scheme, (language, scheme) ∈ catalog.schemes ∧ scheme.name.sameUpToCase name = true := by
  simp [schemeNamed?, List.find?_isSome, mem_schemesOf]

theorem schemeNamed?_eq_some {scheme : Scheme}
    (h : catalog.schemeNamed? language name = some scheme) :
    (language, scheme) ∈ catalog.schemes ∧ scheme.name.sameUpToCase name = true := by
  have hp := List.find?_some h
  exact ⟨mem_schemesOf.mp (List.mem_of_find?_eq_some h), hp⟩

theorem isSome_lookup_iff {α : Type} {pairs : List (Text × α)} :
    (pairs.lookup language).isSome = true ↔ ∃ a, (language, a) ∈ pairs := by
  induction pairs with
  | nil => simp
  | cons pair pairs ih =>
    obtain ⟨other, a⟩ := pair
    by_cases h : language = other
    · subst h
      simp
    · simp [List.lookup_cons, h, ih, beq_eq_false_iff_ne.mpr h]

theorem mem_of_lookup {α : Type} {pairs : List (Text × α)} {a : α}
    (h : pairs.lookup language = some a) : (language, a) ∈ pairs := by
  induction pairs with
  | nil => cases h
  | cons pair pairs ih =>
    rw [List.lookup_cons] at h
    split at h
    · rename_i hlanguage
      rw [beq_iff_eq.mp hlanguage, ← Option.some.inj h]
      exact List.mem_cons_self
    · exact List.mem_cons_of_mem _ (ih h)

end Lookups

/-! ## Declaring -/

/-- Something has this key. -/
def IsTaken (catalog : Catalog π) : Declaration.Key → Prop
  | .provider language kind name => ∃ entry ∈ catalog.providers,
      entry.language = language ∧ entry.kind = kind ∧ entry.name = name
  | .chain language => ∃ chain ∈ catalog.chains, chain.language = language
  | .scheme language folded => ∃ scheme, (language, scheme) ∈ catalog.schemes ∧
      scheme.name.foldCase = folded
  | .defaultScheme language => ∃ name, (language, name) ∈ catalog.defaults

/-- The catalog with one more declaration, whatever its key. -/
def add (catalog : Catalog π) : Declaration π → Catalog π
  | .provider entry => { catalog with providers := catalog.providers ++ [entry] }
  | .chain chain => { catalog with chains := catalog.chains ++ [chain] }
  | .scheme language scheme => { catalog with schemes := catalog.schemes ++ [(language, scheme)] }
  | .defaultScheme language name => { catalog with defaults := catalog.defaults ++ [(language, name)] }

/-- A declaration is refused when its key is taken, and added when it is not. -/
theorem declare_cases (catalog : Catalog π) (declaration : Declaration π) :
    (catalog.IsTaken declaration.key ∧ catalog.declare declaration = .error declaration.refusal) ∨
      (¬catalog.IsTaken declaration.key ∧
        catalog.declare declaration = .ok (catalog.add declaration)) := by
  cases declaration with
  | provider entry =>
    rw [declare, Declaration.key, IsTaken, ← isSome_provider?_iff]
    cases catalog.provider? entry.language entry.kind entry.name with
    | none => exact .inr ⟨by simp, rfl⟩
    | some earlier => exact .inl ⟨rfl, rfl⟩
  | chain chain =>
    rw [declare, Declaration.key, IsTaken, ← isSome_chain?_iff]
    cases catalog.chain? chain.language with
    | none => exact .inr ⟨by simp, rfl⟩
    | some earlier => exact .inl ⟨rfl, rfl⟩
  | scheme language scheme =>
    simp only [declare, Declaration.key, IsTaken, ← Text.sameUpToCase_iff]
    rw [← isSome_schemeNamed?_iff]
    cases catalog.schemeNamed? language scheme.name with
    | none => exact .inr ⟨by simp, rfl⟩
    | some earlier => exact .inl ⟨rfl, rfl⟩
  | defaultScheme language name =>
    rw [declare, Declaration.key, IsTaken, ← isSome_lookup_iff]
    cases catalog.defaults.lookup language with
    | none => exact .inr ⟨by simp, rfl⟩
    | some earlier => exact .inl ⟨rfl, rfl⟩

/-- The catalog of what is declared, whatever is repeated or missing. -/
def declared (declarations : List (Declaration π)) : Catalog π where
  providers := declarations.filterMap Declaration.provider?
  chains := declarations.filterMap Declaration.chain?
  schemes := declarations.filterMap Declaration.scheme?
  defaults := declarations.filterMap Declaration.default?

section Declared

variable {declarations : List (Declaration π)}

@[simp] theorem mem_providers_declared {entry : ProviderEntry π} :
    entry ∈ (declared declarations).providers ↔ .provider entry ∈ declarations := by
  simp [declared]

@[simp] theorem mem_chains_declared {chain : Chain} :
    chain ∈ (declared declarations).chains ↔ .chain chain ∈ declarations := by
  simp [declared]

@[simp] theorem mem_schemes_declared {scheme : Text × Scheme} :
    scheme ∈ (declared declarations).schemes ↔ .scheme scheme.1 scheme.2 ∈ declarations := by
  simp [declared]

@[simp] theorem mem_defaults_declared {default : Text × Text} :
    default ∈ (declared declarations).defaults ↔
      .defaultScheme default.1 default.2 ∈ declarations := by
  simp [declared]

theorem declared_append_singleton (declarations : List (Declaration π))
    (declaration : Declaration π) :
    declared (declarations ++ [declaration]) = (declared declarations).add declaration := by
  cases declaration <;>
    simp [declared, add, List.filterMap_cons, Declaration.provider?, Declaration.chain?,
      Declaration.scheme?, Declaration.default?]

theorem isTaken_declared {key : Declaration.Key} :
    (declared declarations).IsTaken key ↔ key ∈ declarations.map Declaration.key := by
  cases key with
  | provider language kind name => simp [IsTaken, Declaration.provider_mem_keys]
  | chain language => simp [IsTaken, Declaration.chain_mem_keys]
  | scheme language folded => simp [IsTaken, Declaration.scheme_mem_keys]
  | defaultScheme language => simp [IsTaken, Declaration.default_mem_keys]

/-- Declarations with different keys are all taken. -/
theorem foldlM_declare (h : (declarations.map Declaration.key).Nodup) :
    declarations.foldlM declare (empty : Catalog π) = .ok (declared declarations) := by
  induction declarations using List.reverseRecOn with
  | nil => rfl
  | append_singleton declarations declaration ih =>
    rw [List.map_append, List.map_singleton, List.nodup_append] at h
    obtain ⟨hn, -, hfresh⟩ := h
    have hkey : ¬(declared declarations).IsTaken declaration.key := fun htaken =>
      hfresh _ (isTaken_declared.mp htaken) _ List.mem_cons_self rfl
    rw [List.foldlM_append, ih hn, declared_append_singleton]
    rcases (declared declarations).declare_cases declaration with ⟨htaken, -⟩ | ⟨-, hd⟩
    · exact absurd htaken hkey
    · simp [bind, Except.bind, pure, Except.pure, hd]

/-- The first declaration that repeats a key is reported. -/
theorem foldlM_declare_repeats {before later : List (Declaration π)} {declaration : Declaration π}
    (h : (before.map Declaration.key).Nodup)
    (hkey : declaration.key ∈ before.map Declaration.key) :
    (before ++ declaration :: later).foldlM declare (empty : Catalog π) =
      .error declaration.refusal := by
  rw [List.foldlM_append, foldlM_declare h]
  rcases (declared before).declare_cases declaration with ⟨-, hd⟩ | ⟨hfree, -⟩
  · simp [bind, Except.bind, hd]
  · exact absurd (isTaken_declared.mpr hkey) hfree

end Declared

/-! ## Checking -/

theorem mem_needs {catalog : Catalog π} {language : Text} {link : ChainLink} :
    (language, link) ∈ catalog.needs ↔
      (∃ chain ∈ catalog.chains, chain.language = language ∧ link ∈ chain.links) ∨
        ∃ scheme, (language, scheme) ∈ catalog.schemes ∧
          link = ⟨.transliterator, scheme.provider⟩ := by
  simp only [needs, List.mem_append, List.mem_flatMap, List.mem_map, byLanguage, mem_sortBy,
    Prod.mk.injEq, Prod.exists]
  constructor
  · rintro (⟨chain, hm, _, hl, rfl, rfl⟩ | ⟨_, scheme, hm, rfl, rfl⟩)
    · exact .inl ⟨chain, hm, rfl, hl⟩
    · exact .inr ⟨scheme, hm, rfl⟩
  · rintro (⟨chain, hm, rfl, hl⟩ | ⟨scheme, hm, rfl⟩)
    · exact .inl ⟨chain, hm, link, hl, rfl, rfl⟩
    · exact .inr ⟨language, scheme, hm, rfl, rfl⟩

/-- A catalog is accepted as it is, exactly when every need is met and every default scheme is
there. -/
theorem check_eq_ok_iff {catalog made : Catalog π} :
    catalog.check = .ok made ↔ made = catalog ∧
      (∀ language link, (language, link) ∈ catalog.needs →
        (catalog.provider? language link.kind link.name).isSome = true) ∧
      ∀ language name, (language, name) ∈ catalog.defaults →
        (catalog.schemeNamed? language name).isSome = true := by
  have hneeds : catalog.missingProvider? = none ↔ ∀ language link,
      (language, link) ∈ catalog.needs →
        (catalog.provider? language link.kind link.name).isSome = true := by
    simp [missingProvider?, List.find?_eq_none, Option.isSome_iff_ne_none]
  have hdefaults : catalog.missingDefault? = none ↔ ∀ language name,
      (language, name) ∈ catalog.defaults →
        (catalog.schemeNamed? language name).isSome = true := by
    simp [missingDefault?, List.find?_eq_none, byLanguage, mem_sortBy, Option.isSome_iff_ne_none]
  rw [← hneeds, ← hdefaults, check]
  cases catalog.missingProvider? with
  | some need => simp
  | none =>
    cases catalog.missingDefault? with
    | some default => simp
    | none => simp [eq_comm]

theorem check_ne_duplicate (catalog : Catalog π) (what : Repeated) (language name : Text) :
    catalog.check ≠ .error (.duplicate what language name) := by
  rw [check]
  cases catalog.missingProvider? with
  | some need => simp
  | none => cases catalog.missingDefault? <;> simp

end Catalog

/-! ## Complete declarations -/

/-- What declarations refer to is declared for the same language. -/
structure Declaration.AreComplete (declarations : List (Declaration π)) : Prop where
  chains : ∀ chain, .chain chain ∈ declarations → ∀ link ∈ chain.links, ∃ entry,
    .provider entry ∈ declarations ∧ entry.language = chain.language ∧ entry.kind = link.kind ∧
      entry.name = link.name
  schemes : ∀ language scheme, .scheme language scheme ∈ declarations → ∃ entry,
    .provider entry ∈ declarations ∧ entry.language = language ∧ entry.kind = .transliterator ∧
      entry.name = scheme.provider
  defaults : ∀ language name, .defaultScheme language name ∈ declarations → ∃ scheme,
    .scheme language scheme ∈ declarations ∧ scheme.name.sameUpToCase name = true

namespace Catalog

variable {declarations : List (Declaration π)}

theorem check_declared_eq_ok_iff {made : Catalog π} :
    (declared declarations).check = .ok made ↔
      made = declared declarations ∧ Declaration.AreComplete declarations := by
  rw [check_eq_ok_iff]
  refine and_congr_right fun _ => ⟨fun ⟨hneeds, hdefaults⟩ => ⟨?_, ?_, ?_⟩, fun h => ⟨?_, ?_⟩⟩
  · intro chain hm link hl
    simpa [isSome_provider?_iff] using
      hneeds chain.language link (mem_needs.mpr (.inl ⟨chain, by simpa using hm, rfl, hl⟩))
  · intro language scheme hm
    simpa [isSome_provider?_iff] using
      hneeds language _ (mem_needs.mpr (.inr ⟨scheme, by simpa using hm, rfl⟩))
  · intro language name hm
    simpa [isSome_schemeNamed?_iff] using hdefaults language name (by simpa using hm)
  · intro language link hn
    rw [isSome_provider?_iff]
    rcases mem_needs.mp hn with ⟨chain, hm, rfl, hl⟩ | ⟨scheme, hm, rfl⟩
    · simpa using h.chains chain (by simpa using hm) link hl
    · simpa using h.schemes language scheme (by simpa using hm)
  · intro language name hm
    rw [isSome_schemeNamed?_iff]
    simpa using h.defaults language name (by simpa using hm)

theorem ofDeclarations_of_nodup (h : (declarations.map Declaration.key).Nodup) :
    ofDeclarations declarations = (declared declarations).check := by
  rw [ofDeclarations, foldlM_declare h]
  rfl

theorem ofDeclarations_of_repeat {before later : List (Declaration π)} {declaration : Declaration π}
    (h : (before.map Declaration.key).Nodup)
    (hkey : declaration.key ∈ before.map Declaration.key) :
    ofDeclarations (before ++ declaration :: later) = .error declaration.refusal := by
  rw [ofDeclarations, foldlM_declare_repeats h hkey]
  rfl

/-- Declarations are refused for a repetition exactly when a key is repeated. -/
theorem ofDeclarations_eq_duplicate_iff :
    (∃ what language name, ofDeclarations declarations = .error (.duplicate what language name)) ↔
      ¬(declarations.map Declaration.key).Nodup := by
  constructor
  · rintro ⟨what, language, name, h⟩ hn
    rw [ofDeclarations_of_nodup hn] at h
    exact check_ne_duplicate _ _ _ _ h
  · intro h
    obtain ⟨before, declaration, later, rfl, hbefore, hkey⟩ := Declaration.exists_first_repeat h
    rw [ofDeclarations_of_repeat hbefore hkey]
    cases declaration <;> exact ⟨_, _, _, rfl⟩

/-- Declarations make up a catalog exactly when no key is repeated and they are complete. -/
theorem ofDeclarations_eq_ok_iff {made : Catalog π} :
    ofDeclarations declarations = .ok made ↔ (declarations.map Declaration.key).Nodup ∧
      Declaration.AreComplete declarations ∧ made = declared declarations := by
  by_cases hn : (declarations.map Declaration.key).Nodup
  · rw [ofDeclarations_of_nodup hn, check_declared_eq_ok_iff]
    simp [hn, and_comm]
  · obtain ⟨before, declaration, later, rfl, hbefore, hkey⟩ := Declaration.exists_first_repeat hn
    rw [ofDeclarations_of_repeat hbefore hkey]
    exact ⟨fun h => (nomatch h), fun h => absurd h.1 hn⟩

end Catalog

end Hanyu
