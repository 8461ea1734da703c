import Hanyu.Fault

/-!
# Cancellation

A run is stopped by raising a signal, or because a deadline passes. Copies of a handle watch the
same signal, so whoever holds one of them can stop the run; a deadline belongs to one copy.

* `reason?_eq_requested_iff`: a raised signal is reported by every handle that watches it.
* `reason?_eq_deadlineExceeded_iff`: a deadline is reported by the handles that carry it.
* `reason?_raise_of_ne`: raising a signal does not show on the handles of another one.
-/

namespace Hanyu

/-- A point in time. -/
abbrev Instant := Nat

/-- A signal that can be raised once and stays raised. -/
structure Signal where
  index : Nat
deriving DecidableEq, Repr

/-- The signals of a program: those that are raised, and how many have been made. -/
structure Signals where
  raised : List Signal
  made : Nat
  /-- The time on the clock. -/
  now : Instant
deriving DecidableEq, Repr

/-- A handle on a signal, with a deadline of its own. -/
structure Cancellation where
  signal : Signal
  deadline : Option Instant
deriving DecidableEq, Repr

namespace Signals

/-- No signals yet, at a point in time. -/
def atTime (now : Instant) : Signals := ⟨[], 0, now⟩

/-- A handle on a new signal. -/
def create (signals : Signals) : Cancellation × Signals :=
  (⟨⟨signals.made⟩, none⟩, { signals with made := signals.made + 1 })

/-- The signals with one of them raised. -/
def raise (signals : Signals) (signal : Signal) : Signals :=
  { signals with raised := signal :: signals.raised }

end Signals

namespace Cancellation

/-- The handle with a deadline, in the place of the one it has. -/
def withDeadline (handle : Cancellation) (deadline : Instant) : Cancellation :=
  { handle with deadline := some deadline }

/-- Whether the handle has a deadline that is reached at a point in time. -/
def isOver (handle : Cancellation) (now : Instant) : Bool :=
  handle.deadline.any fun deadline => deadline ≤ now

/-- Why a run under this handle has to stop. -/
def reason? (handle : Cancellation) (signals : Signals) : Option CancelReason :=
  if handle.signal ∈ signals.raised then some .requested
  else if handle.isOver signals.now then some .deadlineExceeded
  else none

/-- Whether a run under this handle has to stop. -/
def isCancelled (handle : Cancellation) (signals : Signals) : Bool :=
  (handle.reason? signals).isSome

/-- A failure when a run under this handle has to stop. -/
def check (handle : Cancellation) (signals : Signals) : Except Fault Unit :=
  match handle.reason? signals with
  | some reason => .error (.cancelled reason)
  | none => .ok ()

theorem reason?_eq_requested_iff {handle : Cancellation} {signals : Signals} :
    handle.reason? signals = some .requested ↔ handle.signal ∈ signals.raised := by
  unfold reason?
  split
  · simp [*]
  · split <;> simp [*]

theorem reason?_eq_deadlineExceeded_iff {handle : Cancellation} {signals : Signals} :
    handle.reason? signals = some .deadlineExceeded ↔
      handle.signal ∉ signals.raised ∧ ∃ d, handle.deadline = some d ∧ d ≤ signals.now := by
  unfold reason?
  split
  · simp [*]
  · split <;> simp_all [isOver, Option.any_eq_true]

theorem reason?_raise_of_ne {handle : Cancellation} {signals : Signals} {signal : Signal}
    (h : handle.signal ≠ signal) :
    handle.reason? (signals.raise signal) = handle.reason? signals := by
  have hm : handle.signal ∈ (signals.raise signal).raised ↔ handle.signal ∈ signals.raised := by
    simp [Signals.raise, h]
  simp only [reason?, hm]
  rfl

end Cancellation

end Hanyu
