import Hanyu.Attempt
import Hanyu.Cancellation

/-!
# Sessions

A run meets code from outside: segmentation engines, pronunciation oracles and progress displays.
Such code answers, keeps notes, and may raise signals; it can do nothing else to the session it is
called in.

* `mem_raised_call`: no call takes a raised signal back.
* `signals_report_none`: a run that shows no progress leaves the session alone.
-/

namespace Hanyu

/-- What code from outside gives back: its answer, its notes and the signals it raises. -/
structure Reply (σ α : Type) where
  answer : α
  notes : σ
  raises : List Signal

/-- Code from outside, which works on its notes. -/
abbrev Callback (σ α : Type) := σ → Reply σ α

/-- The callback that only answers. -/
def Callback.answer {σ α : Type} (a : α) : Callback σ α := fun notes => ⟨a, notes, []⟩

/-- What the parts of a program share while it runs. -/
structure Session (σ : Type) where
  signals : Signals
  /-- The total that the stage at work has announced last. -/
  stageTotal : UInt64
  /-- The notes of the code from outside. -/
  notes : σ

namespace Session

variable {σ α : Type}

/-- The session at its beginning. -/
def start (now : Instant) (notes : σ) : Session σ := ⟨.atTime now, 0, notes⟩

/-- The session with some signals raised. -/
def raise (session : Session σ) (signals : List Signal) : Session σ :=
  { session with signals := signals.foldl Signals.raise session.signals }

/-- The answer of a callback, and the session after it. -/
def call (callback : Callback σ α) (session : Session σ) : α × Session σ :=
  let reply := callback session.notes
  (reply.answer, { session with notes := reply.notes }.raise reply.raises)

/-- The attempt that asks a callback. -/
def consult (callback : Callback σ (Except Fault α)) : Attempt Fault (Session σ) α :=
  Session.call callback

/-- The attempt that calls a callback which cannot fail. -/
def tell (callback : Callback σ α) : Attempt Fault (Session σ) α := .ask (Session.call callback)

theorem mem_raised_foldl {signals : Signals} {signal : Signal} (raises : List Signal)
    (h : signal ∈ signals.raised) : signal ∈ (raises.foldl Signals.raise signals).raised := by
  induction raises generalizing signals with
  | nil => exact h
  | cons first rest ih => exact ih (List.mem_cons_of_mem _ h)

/-- No time passes while signals are raised. -/
theorem now_foldl_raise (raises : List Signal) (signals : Signals) :
    (raises.foldl Signals.raise signals).now = signals.now := by
  induction raises generalizing signals with
  | nil => rfl
  | cons first rest ih => exact ih (signals.raise first)

theorem mem_raised_call {session : Session σ} {signal : Signal} (callback : Callback σ α)
    (h : signal ∈ session.signals.raised) :
    signal ∈ (session.call callback).2.signals.raised :=
  mem_raised_foldl _ h

end Session

/-- A display of progress: how much is done, and how much there is to do. -/
abbrev Progress (σ : Type) := UInt64 → UInt64 → Callback σ Unit

/-- What a run is given besides its input: the handle that stops it, where it shows its progress,
and how much has been done before. -/
structure RunContext (σ : Type) where
  cancellation : Cancellation
  progress : Option (Progress σ)
  /-- The work that earlier stages have shown, to which this one adds. -/
  base : UInt64

namespace RunContext

variable {σ α β : Type}

/-- A context under a handle, without a display of progress. -/
def under (cancellation : Cancellation) : RunContext σ := ⟨cancellation, none, 0⟩

/-- The context under another handle. -/
def withCancellation (context : RunContext σ) (cancellation : Cancellation) : RunContext σ :=
  { context with cancellation }

/-- The context with a display of progress. -/
def withProgress (context : RunContext σ) (progress : Progress σ) : RunContext σ :=
  { context with progress := some progress }

/-- The context for a stage after which so much more has been done. -/
def offset (context : RunContext σ) (done : UInt64) : RunContext σ :=
  { context with base := context.base + done }

/-- A failure when the run has to stop. -/
def check (context : RunContext σ) : Attempt Fault (Session σ) Unit := fun session =>
  (context.cancellation.check session.signals, session)

/-- The session after so much has been shown as done, at most all there is to do. -/
def reported (context : RunContext σ) (done total : UInt64) (session : Session σ) : Session σ :=
  match context.progress with
  | none => session
  | some progress =>
    let done := if done < total then done else total
    (Session.call (progress (context.base + done) (context.base + total))
      { session with stageTotal := total }).2

/-- The attempt that shows so much as done. -/
def report (context : RunContext σ) (done total : Nat) : Attempt Fault (Session σ) Unit :=
  .change (context.reported (.ofNat done) (.ofNat total))

/-- Works through items, of which so many have been worked through before. The cancellation is
looked at before every item whose place is a multiple of the interval, and every item is shown when
it is done. -/
def workFrom (context : RunContext σ) (interval total : Nat)
    (work : α → Attempt Fault (Session σ) β) : Nat → List α → Attempt Fault (Session σ) (List β)
  | _, [] => pure []
  | place, item :: items => do
    if place % interval = 0 then context.check
    let result ← work item
    context.report (place + 1) total
    let results ← workFrom context interval total work (place + 1) items
    return result :: results

/-- Works through all items, and shows the end once more. -/
def workThrough (context : RunContext σ) (interval : Nat)
    (work : α → Attempt Fault (Session σ) β) (items : List α) :
    Attempt Fault (Session σ) (List β) := do
  let results ← context.workFrom interval items.length work 0 items
  context.report items.length items.length
  return results

theorem signals_report_none {context : RunContext σ} (h : context.progress = none)
    (done total : UInt64) (session : Session σ) :
    context.reported done total session = session := by
  simp [reported, h]

/-- A context in words: whether its signal is raised, whether it has a deadline, and whether it
shows progress. -/
def describe (context : RunContext σ) (session : Session σ) : String :=
  let raised := decide (context.cancellation.signal ∈ session.signals.raised)
  let deadline := match context.cancellation.deadline with
    | some deadline => "Some(" ++ toString deadline ++ ")"
    | none => "None"
  let progress := context.progress.isSome
  "Context \x7b cancel: CancelToken \x7b flag: " ++ toString raised ++ ", deadline: " ++ deadline ++
    " \x7d, progress: " ++ toString progress ++ " \x7d"

end RunContext

end Hanyu
