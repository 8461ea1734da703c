import Hanyu.Fault
import Hanyu.Sorting

/-!
# Catalogs

A catalog says which providers there are for a language, which of them make up a pipeline, and
which schemes a pipeline can be set to. It is made from declarations, whose order matters only for
the order of the schemes and for what is reported first, and does not change afterwards.

* `provider?_eq_some`: what a lookup finds is what was asked for.
* `mem_languages_iff`: a language is known by its providers, its chain and its schemes.
* `resolveScheme_of_scheme?`: a scheme that exists is the one that is used.
-/

namespace Hanyu

/-- An implementation of a stage, under a name. -/
structure ProviderEntry (π : Type) where
  language : Text
  name : Text
  kind : Kind
  capabilities : List Text
  /-- The provider before anything is done with it. -/
  fresh : π

/-- A transliterator and the style it is to have, under a name. -/
structure Scheme where
  name : Text
  description : Text
  /-- The name of the transliterator. -/
  provider : Text
  /-- The value of the option that selects the style. -/
  parameter : Text
deriving DecidableEq, Repr

/-- A provider of a chain, by its kind and name. -/
structure ChainLink where
  kind : Kind
  name : Text
deriving DecidableEq, Repr

/-- The providers of a language that make up its pipelines, in order. -/
structure Chain where
  language : Text
  links : List ChainLink
deriving DecidableEq, Repr

/-- Something that is put into a catalog. -/
inductive Declaration (π : Type) where
  | provider (entry : ProviderEntry π)
  | chain (chain : Chain)
  | scheme (language : Text) (scheme : Scheme)
  /-- The name of the scheme for a language when none that exists is asked for. -/
  | defaultScheme (language name : Text)

/-- What has been declared twice. -/
inductive Repeated where
  | provider
  | chain
  | scheme
  | defaultScheme
deriving DecidableEq, Repr

/-- The noun for what has been declared twice. -/
def Repeated.noun : Repeated → String
  | provider => "provider"
  | chain => "default chain"
  | scheme => "scheme"
  | defaultScheme => "default scheme"

/-- Why declarations make up no catalog, or why a catalog cannot give what was asked for. -/
inductive Refusal where
  | duplicate (what : Repeated) (language name : Text)
  | unknownProvider (language : Text) (kind : Kind) (name : Text)
  | unknownLanguage (language : Text)
  | noDefaultChain (language : Text)
  | unknownDefaultScheme (language scheme : Text)
  /-- The pipeline could not be set to its scheme. -/
  | pipeline (fault : Fault)
deriving DecidableEq, Repr

/-- The wording of a refusal. -/
def Refusal.message : Refusal → String
  | duplicate what language name =>
    "duplicate " ++ what.noun ++ " registration for " ++ String.ofList language ++ ": " ++
      String.ofList name
  | unknownProvider language kind name =>
    "unknown " ++ kind.name ++ " " ++ String.ofList name ++ " for language " ++
      String.ofList language
  | unknownLanguage language => "unknown language: " ++ String.ofList language
  | noDefaultChain language => "no default chain for language " ++ String.ofList language
  | unknownDefaultScheme language scheme =>
    "default scheme " ++ String.ofList scheme ++ " is not registered for " ++ String.ofList language
  | pipeline fault => fault.message

/-- The entry with its provider in another form. -/
def ProviderEntry.map {π ρ : Type} (f : π → ρ) (entry : ProviderEntry π) : ProviderEntry ρ :=
  ⟨entry.language, entry.name, entry.kind, entry.capabilities, f entry.fresh⟩

/-- The declaration with its provider, if it has one, in another form. -/
def Declaration.map {π ρ : Type} (f : π → ρ) : Declaration π → Declaration ρ
  | provider entry => .provider (entry.map f)
  | chain c => .chain c
  | scheme language s => .scheme language s
  | defaultScheme language name => .defaultScheme language name

/-- An entry in words. -/
def ProviderEntry.describe {π : Type} (entry : ProviderEntry π) : String :=
  "ProviderEntry \x7b language: " ++ String.ofList entry.language.quoted ++ ", name: " ++
    String.ofList entry.name.quoted ++ ", kind: " ++ entry.kind.title ++ ", capabilities: " ++
    String.ofList (Text.quotedList entry.capabilities) ++ " \x7d"

/-- What has been declared. -/
structure Catalog (π : Type) where
  providers : List (ProviderEntry π)
  chains : List Chain
  /-- The schemes, each with its language. -/
  schemes : List (Text × Scheme)
  /-- For each language the name of its default scheme. -/
  defaults : List (Text × Text)

namespace Catalog

variable {π : Type}

/-- The catalog of nothing. -/
def empty : Catalog π := ⟨[], [], [], []⟩

/-- The provider of a language with this kind and name. -/
def provider? (catalog : Catalog π) (language : Text) (kind : Kind) (name : Text) :
    Option (ProviderEntry π) :=
  catalog.providers.find? fun entry =>
    entry.language == language && entry.kind == kind && entry.name == name

/-- The chain of a language. -/
def chain? (catalog : Catalog π) (language : Text) : Option Chain :=
  catalog.chains.find? fun chain => chain.language == language

/-- The schemes of a language, in the order of their declaration. -/
def schemesOf (catalog : Catalog π) (language : Text) : List Scheme :=
  (catalog.schemes.filter fun entry => entry.1 == language).map Prod.snd

/-- The scheme of a language whose name differs from this one at most in the case of ASCII
letters. -/
def schemeNamed? (catalog : Catalog π) (language name : Text) : Option Scheme :=
  (catalog.schemesOf language).find? fun scheme => scheme.name.sameUpToCase name

/-- The catalog with one more declaration, which must not repeat one that it has. -/
def declare (catalog : Catalog π) : Declaration π → Except Refusal (Catalog π)
  | .provider entry =>
    match catalog.provider? entry.language entry.kind entry.name with
    | some _ => .error (.duplicate .provider entry.language entry.name)
    | none => .ok { catalog with providers := catalog.providers ++ [entry] }
  | .chain chain =>
    match catalog.chain? chain.language with
    | some _ => .error (.duplicate .chain chain.language chain.language)
    | none => .ok { catalog with chains := catalog.chains ++ [chain] }
  | .scheme language scheme =>
    match catalog.schemeNamed? language scheme.name with
    | some _ => .error (.duplicate .scheme language scheme.name)
    | none => .ok { catalog with schemes := catalog.schemes ++ [(language, scheme)] }
  | .defaultScheme language name =>
    match catalog.defaults.lookup language with
    | some _ => .error (.duplicate .defaultScheme language name)
    | none => .ok { catalog with defaults := catalog.defaults ++ [(language, name)] }

/-- Elements in the order of their languages. -/
def byLanguage {α : Type} (language : α → Text) (elements : List α) : List α :=
  sortBy (fun a b => Text.notAfter (language a) (language b)) elements

/-- The providers that chains and schemes need, each with its language: those of the chains first,
and both in the order of their languages. -/
def needs (catalog : Catalog π) : List (Text × ChainLink) :=
  ((byLanguage Chain.language catalog.chains).flatMap fun chain =>
    chain.links.map fun link => (chain.language, link)) ++
  (byLanguage Prod.fst catalog.schemes).map fun (language, scheme) =>
    (language, ⟨.transliterator, scheme.provider⟩)

/-- A need that no provider meets. -/
def missingProvider? (catalog : Catalog π) : Option (Text × ChainLink) :=
  catalog.needs.find? fun (language, link) =>
    (catalog.provider? language link.kind link.name).isNone

/-- A default scheme that does not exist. -/
def missingDefault? (catalog : Catalog π) : Option (Text × Text) :=
  (byLanguage Prod.fst catalog.defaults).find? fun (language, name) =>
    (catalog.schemeNamed? language name).isNone

/-- The catalog itself, when nothing is missing in it. -/
def check (catalog : Catalog π) : Except Refusal (Catalog π) :=
  match catalog.missingProvider?, catalog.missingDefault? with
  | some (language, link), _ => .error (.unknownProvider language link.kind link.name)
  | none, some (language, name) => .error (.unknownDefaultScheme language name)
  | none, none => .ok catalog

/-- The catalog of some declarations. -/
def ofDeclarations (declarations : List (Declaration π)) : Except Refusal (Catalog π) :=
  declarations.foldlM declare empty >>= check

/-- The languages with a provider, a chain or a scheme, in order. -/
def languages (catalog : Catalog π) : List Text :=
  dropRepeats (sortBy Text.notAfter (catalog.providers.map ProviderEntry.language ++
    catalog.chains.map Chain.language ++ catalog.schemes.map Prod.fst))

/-- Whether an entry is listed before another: by its kind, then by its name. -/
def listedBefore (a b : ProviderEntry π) : Bool :=
  a.kind.rank < b.kind.rank || a.kind == b.kind && Text.notAfter a.name b.name

/-- The providers of a language, in the order of their listing. -/
def providersOf (catalog : Catalog π) (language : Text) : List (ProviderEntry π) :=
  sortBy listedBefore (catalog.providers.filter fun entry => entry.language == language)

/-- The providers of a language that can do something. -/
def providersWith (catalog : Catalog π) (language capability : Text) : List (ProviderEntry π) :=
  (catalog.providersOf language).filter fun entry => entry.capabilities.contains capability

/-- The scheme of a language by its name, in any case of ASCII letters and between any blanks. -/
def scheme? (catalog : Catalog π) (language name : Text) : Option Scheme :=
  catalog.schemeNamed? language name.trim

/-- The default scheme of a language. -/
def defaultScheme? (catalog : Catalog π) (language : Text) : Option Scheme :=
  (catalog.defaults.lookup language).bind (catalog.scheme? language)

/-- The scheme of a language by its name, or else its default scheme. -/
def resolveScheme (catalog : Catalog π) (language name : Text) : Except Refusal Scheme :=
  match (catalog.scheme? language name).or (catalog.defaultScheme? language) with
  | some scheme => .ok scheme
  | none => .error (.unknownLanguage language)

/-- A catalog in words: how many providers it has, and which languages. -/
def describe (catalog : Catalog π) : String :=
  "Registry \x7b providers: " ++ toString catalog.providers.length ++ ", languages: " ++
    String.ofList (Text.quotedList catalog.languages) ++ " \x7d"

theorem provider?_eq_some {catalog : Catalog π} {language name : Text} {kind : Kind}
    {entry : ProviderEntry π} (h : catalog.provider? language kind name = some entry) :
    entry ∈ catalog.providers ∧ entry.language = language ∧ entry.kind = kind ∧
      entry.name = name := by
  have hp := List.find?_some h
  simp only [Bool.and_eq_true, beq_iff_eq] at hp
  exact ⟨List.mem_of_find?_eq_some h, hp.1.1, hp.1.2, hp.2⟩

theorem mem_languages_iff {catalog : Catalog π} {language : Text} :
    language ∈ catalog.languages ↔
      (∃ entry ∈ catalog.providers, entry.language = language) ∨
        (∃ chain ∈ catalog.chains, chain.language = language) ∨
          ∃ entry ∈ catalog.schemes, entry.1 = language := by
  simp only [languages, mem_dropRepeats, mem_sortBy, List.mem_append, List.mem_map, or_assoc]

theorem resolveScheme_of_scheme? {catalog : Catalog π} {language name : Text} {scheme : Scheme}
    (h : catalog.scheme? language name = some scheme) :
    catalog.resolveScheme language name = .ok scheme := by
  simp [resolveScheme, h]

end Catalog

end Hanyu
