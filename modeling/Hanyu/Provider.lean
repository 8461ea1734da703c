import Hanyu.Session
import Hanyu.Token

/-!
# Providers

A provider does the work of one stage of a pipeline. It is started before it processes batches, can
be started anew, and releases what it holds. Every operation is an attempt on the provider's own
state and on the session.

* `lookup_schemeOption`: the option that selects a style has one key.
-/

namespace Hanyu

/-- Values by keys. A provider ignores keys that it does not know. -/
abbrev Options := List (Text × Text)

/-- The key of the option that selects the style of a transliterator. -/
def schemeOption : Text := "scheme".toList

/-- The options that select a style and nothing else. -/
def Options.ofScheme (parameter : Text) : Options := [(schemeOption, parameter)]

theorem lookup_schemeOption (parameter : Text) :
    (Options.ofScheme parameter).lookup schemeOption = some parameter := by
  simp [Options.ofScheme]

/-- What a provider says about itself. -/
structure Profile where
  name : Text
  kind : Kind
  capabilities : List Text
  /-- The greatest number of characters of a chunk that it accepts; zero means any. -/
  limit : Nat
deriving DecidableEq, Repr

/-- The states `π` of a provider, with its operations, in sessions with notes `σ`. -/
class Provider (σ : outParam Type) (π : Type) where
  profile : π → Profile
  configure (options : Options) : Attempt Fault (π × Session σ) Unit
  /-- Makes the provider ready; nothing happens when it is. -/
  start : Attempt Fault (π × Session σ) Unit
  /-- Makes the provider ready, after giving up what it holds when it is to be `fresh`. -/
  restart (fresh : Bool) : Attempt Fault (π × Session σ) Unit
  process (context : RunContext σ) (batch : Batch) : Attempt Fault (π × Session σ) Batch
  /-- Gives up what the provider holds. -/
  release : Attempt Fault (π × Session σ) Unit
  /-- What happens when the provider itself is given up. -/
  discard : π → Session σ → Session σ

/-- Either of two providers, whichever is there. -/
instance {σ π ρ : Type} [Provider σ π] [Provider σ ρ] : Provider σ (π ⊕ ρ) where
  profile := Sum.elim Provider.profile Provider.profile
  configure options := .either (Provider.configure options) (Provider.configure options)
  start := .either Provider.start Provider.start
  restart fresh := .either (Provider.restart fresh) (Provider.restart fresh)
  process context batch := .either (Provider.process context batch) (Provider.process context batch)
  release := .either Provider.release Provider.release
  discard := Sum.elim Provider.discard Provider.discard

namespace Capability

/-- Finding the words of a text. -/
def tokenization : Text := "tokenization".toList

/-- Naming the part of speech of a word. -/
def posTagging : Text := "pos-tagging".toList

/-- Writing a word in another script. -/
def transliteration : Text := "transliteration".toList

/-- Giving all readings of a character. -/
def heteronyms : Text := "heteronyms".toList

/-- Telling the tone of a syllable. -/
def tone : Text := "tone".toList

end Capability

end Hanyu
