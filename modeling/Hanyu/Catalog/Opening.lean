import Hanyu.Catalog
import Hanyu.Pipeline
import Hanyu.Settings

/-!
# Opening pipelines

A catalog opens pipelines: the chain of a language as it is, or with every transliterator replaced
by that of a scheme and set to its style.

* `assemble_eq_ok`: an assembled pipeline bears the name of its language and has a stage for every
  link of the chain.
-/

namespace Hanyu.Catalog

variable {σ π : Type}

/-- The chain of a language, or the reason why it has none. -/
def chainOf (catalog : Catalog π) (language : Text) : Except Refusal Chain :=
  match catalog.chain? language with
  | some chain => .ok chain
  | none =>
    if catalog.languages.contains language then .error (.noDefaultChain language)
    else .error (.unknownLanguage language)

/-- The name of the provider for a link, when a transliterator is to stand in for those of the
chain. -/
def nameFor (transliterator : Option Text) (link : ChainLink) : Text :=
  match link.kind with
  | .tokenizer => link.name
  | .transliterator => transliterator.getD link.name

/-- A fresh provider for a link. -/
def instantiate (catalog : Catalog π) (language : Text) (transliterator : Option Text)
    (link : ChainLink) : Except Refusal π :=
  let name := nameFor transliterator link
  match catalog.provider? language link.kind name with
  | some entry => .ok entry.fresh
  | none => .error (.unknownProvider language link.kind name)

/-- A pipeline of fresh providers for the chain of a language. -/
def assemble (catalog : Catalog π) (settings : Settings) (language : Text)
    (transliterator : Option Text) : Except Refusal (Pipeline π) := do
  let chain ← catalog.chainOf language
  let providers ← chain.links.mapM (catalog.instantiate language transliterator)
  return .ofProviders language settings.chunkLimit providers

variable [Provider σ π]

/-- A pipeline for the default chain of a language. -/
def openDefault (catalog : Catalog π) (settings : Settings) (language : Text) :
    Attempt Refusal (Session σ) (Pipeline π) :=
  .ofExcept (catalog.assemble settings language none)

/-- A pipeline with its options set. It is given up when they cannot be set. -/
def configured (pipeline : Pipeline π) (options : Options) :
    Attempt Refusal (Session σ) (Pipeline π) := fun session =>
  match Pipeline.configure options (pipeline, session) with
  | (.ok (), pipeline, session) => (.ok pipeline, session)
  | (.error fault, pipeline, session) => (.error (.pipeline fault), pipeline.discard session)

/-- A pipeline for a scheme of a language, or for its default scheme when no other one has this
name. -/
def openScheme (catalog : Catalog π) (settings : Settings) (language name : Text) :
    Attempt Refusal (Session σ) (Pipeline π) := do
  let scheme ← .ofExcept (catalog.resolveScheme language name)
  let pipeline ← .ofExcept (catalog.assemble settings language (some scheme.provider))
  configured pipeline (.ofScheme scheme.parameter)

/-- A pipeline for a scheme, when one is asked for, or for the default chain. -/
def openPipeline (catalog : Catalog π) (settings : Settings) (language : Text)
    (scheme : Option Text) : Attempt Refusal (Session σ) (Pipeline π) :=
  match scheme with
  | some name => catalog.openScheme settings language name
  | none => catalog.openDefault settings language

omit [Provider σ π] in
theorem assemble_eq_ok {catalog : Catalog π} {settings : Settings} {language : Text}
    {transliterator : Option Text} {pipeline : Pipeline π}
    (h : catalog.assemble settings language transliterator = .ok pipeline) :
    ∃ chain providers, catalog.chainOf language = .ok chain ∧
      chain.links.mapM (catalog.instantiate language transliterator) = .ok providers ∧
        pipeline = .ofProviders language settings.chunkLimit providers := by
  unfold assemble at h
  cases hc : catalog.chainOf language with
  | error refusal => rw [hc] at h; cases h
  | ok chain =>
    rw [hc] at h
    cases hp : chain.links.mapM (catalog.instantiate language transliterator) with
    | error refusal =>
      simp only [bind, Except.bind, hp] at h
      cases h
    | ok providers =>
      simp only [bind, Except.bind, hp] at h
      cases h
      exact ⟨chain, providers, rfl, hp, rfl⟩

end Hanyu.Catalog
