import Hanyu.Mode
import Hanyu.Style
import Hanyu.Text.Quoted

/-!
# Faults

Why a run fails. A fault says what went wrong; its wording is in `Fault.message`. A fault that
comes out of a stage is wrapped with the stage's name and the operation that failed.

* `root_root`: the root of a fault has no wrapper left.
* `root_inStage`: wrapping a fault does not change its root.
-/

namespace Hanyu

/-- Why a run was stopped. -/
inductive CancelReason where
  /-- Somebody asked for it. -/
  | requested
  /-- The time allowed for the run is over. -/
  | deadlineExceeded
deriving DecidableEq, Repr

/-- The wording of a reason. -/
def CancelReason.message : CancelReason → String
  | requested => "cancellation requested"
  | deadlineExceeded => "deadline exceeded"

/-- An operation of a stage. -/
inductive Operation where
  | configure
  | start
  | process
  | release
deriving DecidableEq, Repr

/-- The noun for an operation. -/
def Operation.noun : Operation → String
  | configure => "configuration"
  | start => "initialization"
  | process => "processing"
  | release => "release"

/-- Why something cannot be started. -/
inductive StartFailure where
  /-- The tokenizer holds no segmentation engine. -/
  | segmenterNotLoaded
  /-- The transliterator has not been initialized. -/
  | transliteratorNotInitialized
  /-- A lexicon without words cannot segment. -/
  | noWords
  /-- An engine from outside gave this reason. -/
  | refused (text : String)
deriving DecidableEq, Repr

/-- The wording of a failure to start. -/
def StartFailure.message : StartFailure → String
  | segmenterNotLoaded => "segmenter not loaded"
  | transliteratorNotInitialized => "transliterator not initialized"
  | noWords => "lexicon has no words"
  | refused text => text

/-- Two numbers that an oracle's answer should have made equal. -/
inductive Mismatch where
  /-- Part-of-speech tags, and lexical tokens. -/
  | tags (given lexical : Nat)
  /-- Lists of readings of a surface in a style, and numeric ones. -/
  | tables (surface : Text) (display : Nat) (style : Style) (numeric : Nat)
  /-- Lists of readings of a surface, and its characters. -/
  | lists (surface : Text) (given expected : Nat)
  /-- An oracle from outside gave this description. -/
  | reported (text : String)
deriving DecidableEq, Repr

/-- The wording of a mismatch. -/
def Mismatch.message : Mismatch → String
  | tags given lexical => s!"{given} part-of-speech tags for {lexical} lexical tokens"
  | tables surface display style numeric =>
    let surface := String.ofList surface.quoted
    let style := style.name
    s!"{surface}: {display} {style} readings vs {numeric} numeric readings"
  | lists surface given expected =>
    let surface := String.ofList surface.quoted
    s!"{surface}: {given} reading lists for {expected} characters"
  | reported text => text

/-- Why an oracle gives no answer. -/
inductive OracleFailure where
  /-- A segmenter was asked before it was loaded. -/
  | usedBeforeLoad
  /-- An oracle from outside gave this reason. -/
  | reported (text : String)
deriving DecidableEq, Repr

/-- The wording of an oracle's failure. -/
def OracleFailure.message : OracleFailure → String
  | usedBeforeLoad => "segmenter used before load"
  | reported text => text

/-- What is wrong with how a run was set up. -/
inductive Misconfiguration where
  /-- A chunk has more characters than the stage accepts. -/
  | oversizedChunk (size limit : Nat)
  /-- The pipeline has no stages for the mode. -/
  | unsupportedMode (pipeline : Text) (mode : Mode)
  /-- Raw chunks were given to a run without tokenizers. -/
  | rawChunks
  /-- A stage from outside gave this reason. -/
  | reported (text : String)
deriving DecidableEq, Repr

/-- The wording of a misconfiguration. -/
def Misconfiguration.message : Misconfiguration → String
  | oversizedChunk size limit => s!"chunk of {size} characters exceeds limit of {limit}"
  | unsupportedMode pipeline mode =>
    let pipeline := String.ofList pipeline
    let mode := mode.name
    s!"pipeline {pipeline} does not support mode {mode}"
  | rawChunks => "raw chunks need a tokenizer stage; use tokenize or combined mode"
  | reported text => text

/-- Why an operation of an oracle, a stage or a pipeline fails. -/
inductive Fault where
  | cancelled (reason : CancelReason)
  | initialization (failure : StartFailure)
  | consistency (mismatch : Mismatch)
  /-- A token without the annotations of the expected language. -/
  | unsupportedToken (expected : Text)
  | oracle (failure : OracleFailure)
  | configuration (problem : Misconfiguration)
  /-- A fault that came out of an operation of the stage of this name. -/
  | stage (name : Text) (operation : Operation) (cause : Fault)
deriving DecidableEq, Repr

namespace Fault

/-- The fault wrapped with the stage and the operation it came out of. -/
def inStage (cause : Fault) (name : Text) (operation : Operation) : Fault :=
  stage name operation cause

/-- The fault without its wrappers. -/
def root : Fault → Fault
  | stage _ _ cause => cause.root
  | fault => fault

/-- Whether a fault is, at its root, a cancellation. -/
def isCancelled (fault : Fault) : Bool :=
  match fault.root with
  | cancelled _ => true
  | _ => false

/-- Whether a fault is, at its root, an inconsistent answer of an oracle. -/
def isConsistency (fault : Fault) : Bool :=
  match fault.root with
  | consistency _ => true
  | _ => false

/-- The wording of a fault. -/
def message : Fault → String
  | cancelled reason => "cancelled: " ++ reason.message
  | initialization failure => "initialization failed: " ++ failure.message
  | consistency mismatch => "inconsistent oracle output: " ++ mismatch.message
  | unsupportedToken expected => "token is not a " ++ String.ofList expected ++ " token"
  | oracle failure => "oracle error: " ++ failure.message
  | configuration problem => "invalid configuration: " ++ problem.message
  | stage name operation cause =>
    operation.noun ++ " failed in stage " ++ String.ofList name ++ ": " ++ cause.message

@[simp] theorem root_inStage (fault : Fault) (name : Text) (operation : Operation) :
    (fault.inStage name operation).root = fault.root := rfl

theorem root_root (fault : Fault) : fault.root.root = fault.root := by
  induction fault with
  | stage name operation cause ih => exact ih
  | _ => rfl

end Fault

end Hanyu
