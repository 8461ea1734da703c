import Hanyu.Catalog.Opening
import Hanyu.Chinese.Declarations
import Hanyu.Lexicon.Written
import Hanyu.Settings.Written

/-!
# The engine

An engine runs a text through a pipeline that it opens for this one run.

* `transliterate_of_refused`: a run without a pipeline leaves the session as the opening left it.
-/

namespace Hanyu

/-- A catalog, and the settings it is used with. -/
structure Engine (π : Type) where
  catalog : Catalog π
  settings : Settings

namespace Engine

/-- Why an engine cannot be made, or why a run fails. -/
inductive Failure where
  /-- The file under this path cannot be read, for the reason given. -/
  | unreadable (path : Text) (reason : String)
  | lexicon (failure : Lexicon.ReadFailure)
  | settings (failure : Settings.Failure)
  | catalog (refusal : Refusal)
  | pipeline (fault : Fault)
deriving DecidableEq, Repr

/-- The wording of a failure. -/
def Failure.message : Failure → String
  | unreadable path reason => "cannot read " ++ String.ofList path ++ ": " ++ reason
  | lexicon failure => "invalid lexicon: " ++ failure.message
  | settings failure => "invalid settings: " ++ failure.message
  | catalog refusal => refusal.message
  | pipeline fault => fault.message

/-- The engine for Chinese that works with a lexicon. -/
def ofLexicon {σ : Type} (settings : Settings) (lexicon : Lexicon) :
    Except Failure (Engine (Chinese.Stage σ LexiconSegmenter)) :=
  match Catalog.ofDeclarations (Chinese.declarations settings (.ofLexicon lexicon)
      (.ofLexicon lexicon)) with
  | .ok catalog => .ok ⟨catalog, settings⟩
  | .error refusal => .error (.catalog refusal)

variable {σ π : Type} [Provider σ π]

/-- A pipeline for a language, set to a scheme when one is asked for. -/
def openPipeline (engine : Engine π) (language : Text) (scheme : Option Text) :
    Attempt Failure (Session σ) (Pipeline π) :=
  (engine.catalog.openPipeline engine.settings language scheme).mapFailure .catalog

/-- Runs a text through a pipeline and closes it, whatever comes out. The failure of the run counts
before that of the closing. -/
def runAndClose (context : RunContext σ) (mode : Mode) (text : Text) (pipeline : Pipeline π) :
    Attempt Fault (Session σ) Batch := fun session =>
  let (result, pipeline, session) := Pipeline.processText context mode text (pipeline, session)
  let (closed, pipeline, session) := Pipeline.close (pipeline, session)
  (result >>= fun batch => closed >>= fun _ => .ok batch, pipeline.discard session)

/-- Runs a text through a pipeline that is opened for this run. -/
def transliterate (engine : Engine π) (context : RunContext σ) (language : Text)
    (scheme : Option Text) (mode : Mode) (text : Text) : Attempt Failure (Session σ) Batch := do
  let pipeline ← engine.openPipeline language scheme
  (runAndClose context mode text pipeline).mapFailure .pipeline

/-- Runs a text through a pipeline in a session of its own, which nobody stops. -/
def transliterateOnce {ρ : Type} [Provider Unit ρ] (engine : Engine ρ) (language : Text)
    (scheme : Option Text) (mode : Mode) (text : Text) : Except Failure Batch :=
  let (handle, signals) := (Signals.atTime 0).create
  let session := { Session.start 0 () with signals }
  ((engine.transliterate (.under handle) language scheme mode text).run session).1

theorem transliterate_of_refused {engine : Engine π} {context : RunContext σ} {language : Text}
    {scheme : Option Text} {session session' : Session σ} {failure : Failure}
    (h : (engine.openPipeline language scheme).run session = (.error failure, session'))
    (mode : Mode) (text : Text) :
    (engine.transliterate context language scheme mode text).run session =
      (.error failure, session') :=
  Attempt.run_bind_error h

end Engine

end Hanyu
