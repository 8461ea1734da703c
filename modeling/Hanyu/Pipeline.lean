import Hanyu.Chunk
import Hanyu.Provider

/-!
# Pipelines

A pipeline owns providers and runs a batch through those that the mode of the run selects, each one
working on what the one before it made. A stage is started when it is first needed. A failure is
wrapped with the stage and the operation it came out of and ends the run.

* `Stage.forAll_nil`, `Stage.forAll_cons_ok`: operations on all stages go through them in order.
* `Pipeline.modes_subset`: a pipeline supports a mode only when it has a stage of every kind in it.
-/

namespace Hanyu

/-- How far the life of a stage has come. -/
inductive Phase where
  /-- Nothing has been done with it. -/
  | fresh
  /-- It has been started, and not released since. -/
  | ready
  /-- It has been released, and not started since. -/
  | released
deriving DecidableEq, Repr

/-- A provider and the phase of its life. -/
structure Stage (π : Type) where
  provider : π
  phase : Phase

namespace Stage

variable {σ π : Type} [Provider σ π]

/-- What the provider of a stage says about itself. -/
def profile (stage : Stage π) : Profile := Provider.profile stage.provider

/-- The stage of a provider nothing has been done with. -/
def ofProvider (provider : π) : Stage π := ⟨provider, .fresh⟩

/-- An operation of the provider of a stage. Its failure is wrapped, and its success brings the
stage into the phase given. -/
def perform {α : Type} (operation : Operation) (after : Phase → Phase)
    (x : Attempt Fault (π × Session σ) α) : Attempt Fault (Stage π × Session σ) α :=
  fun (stage, session) =>
    match x (stage.provider, session) with
    | (.ok a, provider, session) => (.ok a, ⟨provider, after stage.phase⟩, session)
    | (.error fault, provider, session) =>
      (.error (fault.inStage (Provider.profile provider).name operation),
        ⟨provider, stage.phase⟩, session)

/-- Hands options to the provider. -/
def configure (options : Options) : Attempt Fault (Stage π × Session σ) Unit :=
  perform .configure id (Provider.configure options)

/-- Starts the provider unless the stage is ready. -/
def ensureReady : Attempt Fault (Stage π × Session σ) Unit := fun (stage, session) =>
  if stage.phase = .ready then (.ok (), stage, session)
  else perform .start (fun _ => .ready) Provider.start (stage, session)

/-- Starts the provider again. -/
def restart (fresh : Bool) : Attempt Fault (Stage π × Session σ) Unit :=
  perform .start (fun _ => .ready) (Provider.restart fresh)

/-- Makes the stage ready and runs a batch through it. -/
def process (context : RunContext σ) (batch : Batch) : Attempt Fault (Stage π × Session σ) Batch :=
  ensureReady >>= fun _ => perform .process id (Provider.process context batch)

/-- Releases the provider unless that has been done. -/
def release : Attempt Fault (Stage π × Session σ) Unit := fun (stage, session) =>
  if stage.phase = .released then (.ok (), stage, session)
  else perform .release (fun _ => .released) Provider.release (stage, session)

/-- What stages leave behind: a result, the stages and the session. -/
abbrev Outcome (σ π α : Type) := Except Fault α × List (Stage π) × Session σ

/-- The outcome with a stage in front that is done with. -/
def Outcome.cons {α : Type} (stage : Stage π) (outcome : Outcome σ π α) : Outcome σ π α :=
  (outcome.1, stage :: outcome.2.1, outcome.2.2)

/-- An operation on all stages in order, up to the first failure. -/
def forAll (x : Attempt Fault (Stage π × Session σ) Unit) :
    List (Stage π) → Session σ → Outcome σ π Unit
  | [], session => (.ok (), [], session)
  | stage :: stages, session =>
    match x (stage, session) with
    | (.error fault, stage, session) => (.error fault, stage :: stages, session)
    | (.ok (), stage, session) => .cons stage (forAll x stages session)

/-- Releases all stages in order, and gives the first failure when they are all done with. -/
def releaseAll : List (Stage π) → Session σ → Outcome σ π Unit
  | [], session => (.ok (), [], session)
  | stage :: stages, session =>
    match release (stage, session) with
    | (.ok (), stage, session) => .cons stage (releaseAll stages session)
    | (.error fault, stage, session) =>
      let (_, stages, session) := releaseAll stages session
      (.error fault, stage :: stages, session)

/-- Runs a batch through the stages that a mode selects, when so much has been done before. Each
stage shows its progress on top of what the stages before it announced. -/
def processAll (context : RunContext σ) (mode : Mode) (done : UInt64) (batch : Batch) :
    List (Stage π) → Session σ → Outcome σ π Batch
  | [], session => (.ok batch, [], session)
  | stage :: stages, session =>
    if mode.selects stage.profile.kind then
      match process (context.offset done) batch (stage, { session with stageTotal := 0 }) with
      | (.error fault, stage, session) => (.error fault, stage :: stages, session)
      | (.ok batch, stage, session) =>
        .cons stage (processAll context mode (done + session.stageTotal) batch stages session)
    else .cons stage (processAll context mode done batch stages session)

omit [Provider σ π] in
@[simp] theorem forAll_nil (x : Attempt Fault (Stage π × Session σ) Unit) (session : Session σ) :
    forAll x [] session = (.ok (), [], session) := rfl

omit [Provider σ π] in
theorem forAll_cons_ok {x : Attempt Fault (Stage π × Session σ) Unit} {stage stage' : Stage π}
    {stages : List (Stage π)} {session session' : Session σ}
    (h : x (stage, session) = (.ok (), stage', session')) :
    forAll x (stage :: stages) session = .cons stage' (forAll x stages session') := by
  rw [forAll, h]

end Stage

/-- Stages in order, under a name. -/
structure Pipeline (π : Type) where
  name : Text
  /-- The greatest number of characters of a chunk when no stage has a limit. -/
  chunkLimit : Nat
  stages : List (Stage π)

namespace Pipeline

variable {σ π : Type} [Provider σ π]

/-- A pipeline of providers nothing has been done with. -/
def ofProviders (name : Text) (settingsLimit : Nat) (providers : List π) : Pipeline π :=
  ⟨name, settingsLimit, providers.map .ofProvider⟩

/-- The names of the stages. -/
def stageNames (pipeline : Pipeline π) : List Text :=
  pipeline.stages.map fun stage => stage.profile.name

/-- Whether a stage of a kind is there. -/
def hasKind (pipeline : Pipeline π) (kind : Kind) : Bool :=
  pipeline.stages.any fun stage => stage.profile.kind == kind

/-- Whether runs in a mode have all the stages they need. -/
def supports (pipeline : Pipeline π) : Mode → Bool
  | .tokenize => pipeline.hasKind .tokenizer
  | .transliterate => pipeline.hasKind .transliterator
  | .combined => pipeline.hasKind .tokenizer && pipeline.hasKind .transliterator

/-- The supported modes in the order of their listing. -/
def modes (pipeline : Pipeline π) : List Mode := Mode.all.filter pipeline.supports

/-- The greatest number of characters of a chunk: the smallest limit of a stage, or the limit of the
settings when no stage has one. -/
def maxChunkLength (pipeline : Pipeline π) : Nat :=
  ((pipeline.stages.map fun stage => stage.profile.limit).filter (0 < ·)).min?.getD
    pipeline.chunkLimit

/-- An attempt on the stages of a pipeline. -/
def onStages {α : Type} (x : List (Stage π) → Session σ → Stage.Outcome σ π α) :
    Attempt Fault (Pipeline π × Session σ) α := fun (pipeline, session) =>
  let (result, stages, session) := x pipeline.stages session
  (result, { pipeline with stages }, session)

/-- A failure when the run has to stop. -/
def check (context : RunContext σ) : Attempt Fault (Pipeline π × Session σ) Unit :=
  .onSecond context.check

/-- Hands options to all stages, up to the first failure. -/
def configure (options : Options) : Attempt Fault (Pipeline π × Session σ) Unit :=
  onStages (Stage.forAll (Stage.configure options))

/-- Makes all stages ready, up to the first failure. -/
def start (context : RunContext σ) : Attempt Fault (Pipeline π × Session σ) Unit :=
  check context >>= fun _ => onStages (Stage.forAll Stage.ensureReady)

/-- Starts all stages again, up to the first failure. -/
def restart (context : RunContext σ) (fresh : Bool) : Attempt Fault (Pipeline π × Session σ) Unit :=
  check context >>= fun _ => onStages (Stage.forAll (Stage.restart fresh))

/-- A failure when the pipeline cannot run a batch in a mode. -/
def admits (mode : Mode) (batch : Batch) : Attempt Fault (Pipeline π × Session σ) Unit :=
  fun (pipeline, session) =>
    if !pipeline.supports mode then
      (.error (.configuration (.unsupportedMode pipeline.name mode)), pipeline, session)
    else if mode = .transliterate && !batch.raw.isEmpty then
      (.error (.configuration .rawChunks), pipeline, session)
    else (.ok (), pipeline, session)

/-- Runs a batch through the stages that a mode selects. -/
def process (context : RunContext σ) (mode : Mode) (batch : Batch) :
    Attempt Fault (Pipeline π × Session σ) Batch := do
  check context
  admits mode batch
  onStages (Stage.processAll context mode 0 batch)

/-- Cuts a text into chunks that all stages accept, and runs them through the pipeline. -/
def processText (context : RunContext σ) (mode : Mode) (text : Text) :
    Attempt Fault (Pipeline π × Session σ) Batch := fun (pipeline, session) =>
  process context mode (.ofChunks (Chunk.split text pipeline.maxChunkLength)) (pipeline, session)

/-- Releases all stages, also after a failure, and gives the first failure. -/
def close : Attempt Fault (Pipeline π × Session σ) Unit := onStages Stage.releaseAll

/-- The session after the pipeline is given up. -/
def discard (pipeline : Pipeline π) (session : Session σ) : Session σ :=
  pipeline.stages.foldl (fun session stage => Provider.discard stage.provider session) session

/-- A pipeline in words: its name and the names of its stages. -/
def describe (pipeline : Pipeline π) : String :=
  "Pipeline \x7b name: " ++ String.ofList pipeline.name.quoted ++ ", stages: " ++
    String.ofList (Text.quotedList pipeline.stageNames) ++ " \x7d"

theorem modes_subset {pipeline : Pipeline π} {mode : Mode} (h : mode ∈ pipeline.modes) {kind : Kind}
    (hk : mode.selects kind = true) : pipeline.hasKind kind = true := by
  have hs : pipeline.supports mode = true := (List.mem_filter.mp h).2
  cases mode <;> cases kind <;> simp_all [supports, Mode.selects]

end Pipeline

end Hanyu
