import Hanyu.Provider
import Hanyu.Pronunciation

/-!
# The Chinese romanizer

The romanizer writes every Chinese token in pinyin, in the style that was chosen last.

* `style_configure`: which style a romanizer has after it was given options.
-/

namespace Hanyu.Chinese

/-- A romanizer. -/
structure Romanizer (σ : Type) where
  pronouncer : Pronouncer σ
  style : Style
  isReady : Bool
  /-- The number of tokens between two looks at the cancellation. -/
  interval : Nat

namespace Romanizer

variable {σ : Type}

/-- The name of the romanizer. -/
def name : Text := "zh-pinyin".toList

/-- What the romanizer can do. -/
def capabilities : List Text :=
  [Capability.transliteration, Capability.heteronyms, Capability.tone]

/-- A romanizer that has not been started, with tone marks as its style. -/
def new (pronouncer : Pronouncer σ) (interval : Nat) : Romanizer σ :=
  ⟨pronouncer, .tone, false, interval⟩

/-- The romanizer with the style that options name, if they name one. -/
def configured (options : Options) (romanizer : Romanizer σ) : Romanizer σ :=
  match options.lookup schemeOption with
  | some name => { romanizer with style := .parse name }
  | none => romanizer

/-- Annotates the tokens of a batch. -/
def romanize (context : RunContext σ) (batch : Batch) (romanizer : Romanizer σ) :
    Attempt Fault (Session σ) Batch := do
  context.check
  if !romanizer.isReady then .fail (.initialization .transliteratorNotInitialized)
  let tokens ← context.workThrough romanizer.interval
    (romanizer.pronouncer.annotate romanizer.style) batch.tokens
  return { batch with tokens }

/-- The attempt that makes the romanizer ready, or not. -/
def setReady (isReady : Bool) : Attempt Fault (Romanizer σ × Session σ) Unit :=
  .change fun (romanizer, session) => ({ romanizer with isReady }, session)

instance : Provider σ (Romanizer σ) where
  profile _ := ⟨name, .transliterator, capabilities, 0⟩
  configure options := .change fun (romanizer, session) => (romanizer.configured options, session)
  start := setReady true
  restart _ := setReady true
  process context batch := fun (romanizer, session) =>
    let (result, session) := romanize context batch romanizer session
    (result, romanizer, session)
  release := setReady false
  discard _ := id

theorem style_configure (romanizer : Romanizer σ) (parameter : Text) :
    (romanizer.configured (.ofScheme parameter)).style = .parse parameter := by
  simp [configured, lookup_schemeOption]

end Romanizer

end Hanyu.Chinese
