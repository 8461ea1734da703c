import Hanyu.Session

/-!
# Handles and contexts in use

A handle can be copied: into other handles, into contexts, and from a context into those of its
stages. What is done with handles and contexts is a list of moves, the latest first.

* `Move`: what can be done, and `Holdings.apply`: what comes of it.
* `Move.source?`, `Move.given?`: from whom a holder has its handle after a move, and which deadline
  it is given, by the moves alone.
* `Holdings.held?_apply`: so it is. After a move a holder has a new handle, or the one that some
  holder had before, perhaps with a deadline.
* `Holdings.mem_raised_after`: signals are raised by those who cancel.
-/

namespace Hanyu

variable {σ : Type}

/-! ## Moves -/

/-- Who has a handle: the handles that have been made, and the contexts, each by its place in the
order in which they were made. -/
inductive Holder where
  | handle (place : Nat)
  | context (place : Nat)
deriving DecidableEq, Repr

/-- When the time for a run is over. -/
inductive Term where
  /-- At a point in time. -/
  | moment (deadline : Instant)
  /-- So much later than now. -/
  | span (time : Nat)
deriving DecidableEq, Repr

/-- The deadline that a term sets at a point in time. -/
def Term.deadline (now : Instant) : Term → Instant
  | moment deadline => deadline
  | span time => now + time

/-- What is done with handles and contexts. -/
inductive Move (σ : Type) where
  /-- Makes a handle on a new signal. -/
  | create
  /-- Makes a handle that is a copy of somebody's handle. -/
  | copy (source : Holder)
  /-- Gives a deadline to a handle, in the place of the one it has. -/
  | limit (handle : Nat) (term : Term)
  /-- Raises the signal of somebody's handle. -/
  | cancel (holder : Holder)
  /-- Makes a context under a handle on a new signal. -/
  | openContext
  /-- Puts a context under a copy of a handle. -/
  | attach (context handle : Nat)
  /-- Gives a display of progress to a context. -/
  | display (context : Nat) (progress : Progress σ)
  /-- Makes a copy of a context. -/
  | copyContext (source : Nat)
  /-- Makes the context of a stage, after which so much more has been done. -/
  | offset (source : Nat) (done : UInt64)
  /-- Lets time pass. -/
  | wait (time : Nat)

/-- How many handles and contexts have been made. -/
structure Census where
  handles : Nat
  contexts : Nat
deriving DecidableEq, Repr

/-- The holder has been made. -/
def Census.Has (made : Census) : Holder → Prop
  | .handle place => place < made.handles
  | .context place => place < made.contexts

instance (made : Census) : DecidablePred made.Has
  | .handle place => inferInstanceAs (Decidable (place < made.handles))
  | .context place => inferInstanceAs (Decidable (place < made.contexts))

namespace Move

/-- The holders that a move is about. -/
def names : Move σ → List Holder
  | create | openContext | wait _ => []
  | copy holder | cancel holder => [holder]
  | limit handle _ => [.handle handle]
  | attach context handle => [.context context, .handle handle]
  | display context _ | copyContext context | offset context _ => [.context context]

/-- How many there are after a move. -/
def counted (made : Census) : Move σ → Census
  | create | copy _ => { made with handles := made.handles + 1 }
  | openContext | copyContext _ | offset _ _ => { made with contexts := made.contexts + 1 }
  | limit _ _ | cancel _ | attach _ _ | display _ _ | wait _ => made

/-- The move makes a handle that is not a copy. -/
def isOriginal : Move σ → Bool
  | create | openContext => true
  | _ => false

/-- How much time passes by a move. -/
def time : Move σ → Nat
  | wait time => time
  | _ => 0

/-- Whose handle a holder has after a move: its own, or the one that is copied for it. A handle that
is not a copy was nobody's. -/
def source? (made : Census) : Move σ → Holder → Option Holder
  | create, .handle place => if place = made.handles then none else some (.handle place)
  | copy source, .handle place => if place = made.handles then some source else some (.handle place)
  | openContext, .context place => if place = made.contexts then none else some (.context place)
  | attach context handle, .context place =>
    if place = context then some (.handle handle) else some (.context place)
  | copyContext source, .context place | offset source _, .context place =>
    if place = made.contexts then some (.context source) else some (.context place)
  | _, holder => some holder

/-- The deadline that a holder is given by a move. -/
def given? (now : Instant) : Move σ → Holder → Option Instant
  | limit handle term, .handle place => if place = handle then some (term.deadline now) else none
  | _, _ => none

/-- The move puts the holder, a context, under another handle. -/
def Replaces : Move σ → Holder → Prop
  | attach context _, .context place => place = context
  | _, _ => False

/-- How many there are after some moves. -/
def census : List (Move σ) → Census
  | [] => ⟨0, 0⟩
  | move :: earlier => move.counted (census earlier)

/-- The time after some moves. -/
def clock (now : Instant) : List (Move σ) → Instant
  | [] => now
  | move :: earlier => clock now earlier + move.time

/-- Every move is about holders that have been made before. -/
def AreSound : List (Move σ) → Prop
  | [] => True
  | move :: earlier => (∀ holder ∈ move.names, (census earlier).Has holder) ∧ AreSound earlier

instance decidableAreSound : (moves : List (Move σ)) → Decidable (AreSound moves)
  | [] => .isTrue trivial
  | _ :: earlier => @instDecidableAnd _ _ _ (decidableAreSound earlier)

variable {made : Census} {moves earlier : List (Move σ)} {move : Move σ} {holder : Holder}

theorem isOriginal_of_source? (h : move.source? made holder = none) : move.isOriginal = true := by
  cases move <;> cases holder <;> simp_all [source?, isOriginal] <;> split at h <;> cases h

theorem given?_of_source? (h : move.source? made holder = none) (now : Instant) :
    move.given? now holder = none := by
  cases move <;> cases holder <;> simp_all [source?, given?]

/-- Only a handle that is there is given a deadline, and it is the same handle then. -/
theorem of_given? {now deadline : Instant} (h : move.given? now holder = some deadline)
    (made : Census) : holder ∈ move.names ∧ move.source? made holder = some holder := by
  cases move <;> cases holder <;> simp_all [given?, names, source?]

/-- Who is there keeps the same handle, unless it is put under another one. -/
theorem source?_of_has (hm : made.Has holder) (hr : ¬move.Replaces holder) :
    move.source? made holder = some holder := by
  cases move <;> cases holder <;> simp_all [source?, Replaces, Census.Has] <;> omega

theorem has_counted (h : made.Has holder) (move : Move σ) : (move.counted made).Has holder := by
  cases move <;> cases holder <;> first | exact h | exact Nat.lt_succ_of_lt h

theorem has_census_append (h : (census earlier).Has holder) (later : List (Move σ)) :
    (census (later ++ earlier)).Has holder := by
  induction later with
  | nil => exact h
  | cons move later ih => exact has_counted ih move

theorem AreSound.of_suffix (hs : AreSound moves) (h : earlier <:+ moves) : AreSound earlier := by
  obtain ⟨later, rfl⟩ := h
  induction later with
  | nil => exact hs
  | cons move later ih => exact ih hs.2

end Move

/-! ## What comes of them -/

/-- The handle with the deadline that it is given, if any, in the place of the one it has. -/
def Cancellation.given (handle : Cancellation) (deadline : Option Instant) : Cancellation :=
  { handle with deadline := deadline.or handle.deadline }

@[simp] theorem Cancellation.given_none (handle : Cancellation) : handle.given none = handle := rfl

@[simp] theorem Cancellation.given_some (handle : Cancellation) (deadline : Instant) :
    handle.given (some deadline) = handle.withDeadline deadline := rfl

@[simp] theorem Cancellation.signal_given (handle : Cancellation) (deadline : Option Instant) :
    (handle.given deadline).signal = handle.signal := rfl

/-- A session with the handles and the contexts that have been made in it. -/
structure Holdings (σ : Type) where
  session : Session σ
  handles : List Cancellation
  contexts : List (RunContext σ)

namespace Holdings

/-- A session at its beginning. -/
def start (now : Instant) (notes : σ) : Holdings σ := ⟨.start now notes, [], []⟩

/-- How many there are. -/
def census (holdings : Holdings σ) : Census := ⟨holdings.handles.length, holdings.contexts.length⟩

/-- The handle that a holder has. -/
def held? (holdings : Holdings σ) : Holder → Option Cancellation
  | .handle place => holdings.handles[place]?
  | .context place => holdings.contexts[place]?.map (·.cancellation)

/-- Why a run of the holder has to stop. -/
def reason? (holdings : Holdings σ) (holder : Holder) : Option CancelReason :=
  (holdings.held? holder).bind (·.reason? holdings.session.signals)

/-- What comes of it when a holder looks whether its run has to stop. -/
def check? (holdings : Holdings σ) : Holder → Option (Except Fault Unit)
  | .handle place => holdings.handles[place]?.map (·.check holdings.session.signals)
  | .context place => holdings.contexts[place]?.map fun context => (context.check holdings.session).1

/-- The holdings after a move. -/
def apply (holdings : Holdings σ) : Move σ → Holdings σ
  | .create =>
    let (handle, signals) := holdings.session.signals.create
    { holdings with
      session := { holdings.session with signals }
      handles := holdings.handles ++ [handle] }
  | .copy source =>
    { holdings with handles := holdings.handles ++ (holdings.held? source).toList }
  | .limit handle term =>
    let deadline := term.deadline holdings.session.signals.now
    { holdings with handles := holdings.handles.modify handle (·.withDeadline deadline) }
  | .cancel holder =>
    let signals := (holdings.held? holder).toList.map (·.signal)
    { holdings with session := holdings.session.raise signals }
  | .openContext =>
    let (handle, signals) := holdings.session.signals.create
    { holdings with
      session := { holdings.session with signals }
      contexts := holdings.contexts ++ [.under handle] }
  | .attach context handle =>
    match holdings.handles[handle]? with
    | some attached =>
      { holdings with contexts := holdings.contexts.modify context (·.withCancellation attached) }
    | none => holdings
  | .display context progress =>
    { holdings with contexts := holdings.contexts.modify context (·.withProgress progress) }
  | .copyContext source =>
    { holdings with contexts := holdings.contexts ++ holdings.contexts[source]?.toList }
  | .offset source done =>
    { holdings with
      contexts := holdings.contexts ++ (holdings.contexts[source]?.map (·.offset done)).toList }
  | .wait time =>
    let signals := holdings.session.signals
    { holdings with
      session := { holdings.session with signals := { signals with now := signals.now + time } } }

/-- The holdings after some moves, the latest first. -/
def after (now : Instant) (notes : σ) : List (Move σ) → Holdings σ
  | [] => start now notes
  | move :: earlier => (after now notes earlier).apply move

/-! ## One move -/

variable {holdings : Holdings σ} {move : Move σ}

@[simp] theorem held?_handle (holdings : Holdings σ) (place : Nat) :
    holdings.held? (.handle place) = holdings.handles[place]? := rfl

@[simp] theorem held?_context (holdings : Holdings σ) (place : Nat) :
    holdings.held? (.context place) = holdings.contexts[place]?.map (·.cancellation) := rfl

theorem has_iff {holder : Holder} :
    holdings.census.Has holder ↔ ∃ handle, holdings.held? holder = some handle := by
  rw [← Option.isSome_iff_exists]
  cases holder <;> simp [census, Census.Has]

/-- Who looks fails with the reason there is to stop, and succeeds when there is none. -/
theorem check?_eq {holder : Holder} (h : holdings.census.Has holder) :
    holdings.check? holder = some
      ((holdings.reason? holder).elim (.ok ()) fun reason => .error (.cancelled reason)) := by
  obtain ⟨handle, hh⟩ := has_iff.mp h
  cases holder with
  | handle place =>
    rw [held?_handle] at hh
    simp only [check?, reason?, held?_handle, hh, Option.map_some, Option.bind_some,
      Cancellation.check]
    cases handle.reason? holdings.session.signals <;> rfl
  | context place =>
    rw [held?_context] at hh
    obtain ⟨context, hc, rfl⟩ := Option.map_eq_some_iff.mp hh
    simp only [check?, reason?, held?_context, hc, Option.map_some, Option.bind_some,
      RunContext.check, Cancellation.check]
    cases context.cancellation.reason? holdings.session.signals <;> rfl

theorem census_apply (h : ∀ holder ∈ move.names, holdings.census.Has holder) :
    (holdings.apply move).census = move.counted holdings.census := by
  cases move with
  | copy source =>
    obtain ⟨handle, hh⟩ := has_iff.mp (h source (by simp [Move.names]))
    simp [apply, census, Move.counted, hh]
  | attach context handle =>
    simp only [apply]
    split <;> simp [census, Move.counted]
  | copyContext source | offset source done =>
    have hs : source < holdings.contexts.length := h (.context source) (by simp [Move.names])
    simp [apply, census, Move.counted, hs]
  | _ => simp [apply, census, Move.counted, Signals.create]

private theorem getElem?_append_singleton {α : Type} (items : List α) (item : α) (place : Nat) :
    (items ++ [item])[place]? = if place = items.length then some item else items[place]? := by
  grind

/-- What a holder is to have after a move: a new handle, or the one that some holder has before it,
with the deadline that it is given. -/
def next? (holdings : Holdings σ) (move : Move σ) (holder : Holder) : Option Cancellation :=
  match move.source? holdings.census holder with
  | none => some ⟨⟨holdings.session.signals.made⟩, none⟩
  | some source => (holdings.held? source).map
    (·.given (move.given? holdings.session.signals.now holder))

theorem held?_apply_handle (h : ∀ holder ∈ move.names, holdings.census.Has holder) (place : Nat) :
    (holdings.apply move).held? (.handle place) = holdings.next? move (.handle place) := by
  cases move with
  | create =>
    by_cases hp : place = holdings.handles.length <;>
      simp [apply, next?, Move.source?, Move.given?, census, hp, getElem?_append_singleton,
        Signals.create]
  | copy source =>
    obtain ⟨handle, hh⟩ := has_iff.mp (h source (by simp [Move.names]))
    by_cases hp : place = holdings.handles.length <;>
      simp [apply, next?, Move.source?, Move.given?, census, hp, getElem?_append_singleton, hh]
  | limit handle term =>
    by_cases hp : place = handle
    · simp [apply, next?, Move.source?, Move.given?, hp]
    · simp [apply, next?, Move.source?, Move.given?, hp, Ne.symm hp]
  | attach context handle =>
    simp only [apply]
    split <;> simp [next?, Move.source?, Move.given?]
  | _ => simp [apply, next?, Move.source?, Move.given?]

theorem held?_apply_context (h : ∀ holder ∈ move.names, holdings.census.Has holder) (place : Nat) :
    (holdings.apply move).held? (.context place) = holdings.next? move (.context place) := by
  cases move with
  | openContext =>
    by_cases hp : place = holdings.contexts.length <;>
      simp [apply, next?, Move.source?, Move.given?, census, hp, getElem?_append_singleton,
        Signals.create, RunContext.under, Function.comp_def]
  | attach context handle =>
    obtain ⟨attached, ha⟩ := has_iff.mp (h (.handle handle) (by simp [Move.names]))
    rw [held?_handle] at ha
    by_cases hp : place = context
    · have hc : place < holdings.contexts.length := hp ▸ h (.context context) (by simp [Move.names])
      simp [apply, next?, Move.source?, Move.given?, ← hp, ha, hc, RunContext.withCancellation]
    · simp [apply, next?, Move.source?, Move.given?, hp, Ne.symm hp, ha, Function.comp_def]
  | display context progress =>
    by_cases hp : place = context
    · simp [apply, next?, Move.source?, Move.given?, hp, RunContext.withProgress, Function.comp_def]
    · simp [apply, next?, Move.source?, Move.given?, Ne.symm hp, Function.comp_def]
  | copyContext source | offset source done =>
    have hs : source < holdings.contexts.length := h (.context source) (by simp [Move.names])
    by_cases hp : place = holdings.contexts.length <;>
      simp [apply, next?, Move.source?, Move.given?, census, hp, hs, getElem?_append_singleton,
        RunContext.offset, Function.comp_def]
  | _ => simp [apply, next?, Move.source?, Move.given?, Function.comp_def]

/-- After a move every holder has what it is to have. -/
theorem held?_apply (h : ∀ holder ∈ move.names, holdings.census.Has holder) (holder : Holder) :
    (holdings.apply move).held? holder = holdings.next? move holder := by
  cases holder with
  | handle place => exact held?_apply_handle h place
  | context place => exact held?_apply_context h place

theorem now_made_apply (holdings : Holdings σ) (move : Move σ) :
    (holdings.apply move).session.signals.now = holdings.session.signals.now + move.time ∧
      (holdings.apply move).session.signals.made =
        holdings.session.signals.made + move.isOriginal.toNat := by
  cases move with
  | cancel holder =>
    simp only [apply]
    cases holdings.held? holder <;> exact ⟨rfl, rfl⟩
  | attach context handle =>
    simp only [apply]
    split <;> exact ⟨rfl, rfl⟩
  | _ => exact ⟨rfl, rfl⟩

/-- Nobody raises a signal but who cancels, and then it is the one of their handle. -/
theorem mem_raised_apply {signal : Signal} :
    signal ∈ (holdings.apply move).session.signals.raised ↔
      signal ∈ holdings.session.signals.raised ∨ ∃ holder handle, move = .cancel holder ∧
        holdings.held? holder = some handle ∧ handle.signal = signal := by
  cases move with
  | cancel holder =>
    cases hh : holdings.held? holder with
    | none => simp [apply, Session.raise, hh]
    | some handle => simp [apply, Session.raise, Signals.raise, hh, or_comm, eq_comm]
  | attach context handle =>
    simp only [apply]
    split <;> simp
  | _ => simp [apply, Signals.create]

/-! ## Moves in a row -/

variable {now : Instant} {notes : σ} {moves later earlier : List (Move σ)}

open Move (AreSound)

theorem census_after (now : Instant) (notes : σ) (h : AreSound moves) :
    (after now notes moves).census = Move.census moves := by
  induction moves with
  | nil => rfl
  | cons move earlier ih =>
    have hc := ih h.2
    rw [after, census_apply (hc ▸ h.1), hc, Move.census]

theorem now_after (notes : σ) (moves : List (Move σ)) :
    (after now notes moves).session.signals.now = Move.clock now moves := by
  induction moves with
  | nil => rfl
  | cons move earlier ih => rw [after, (now_made_apply _ move).1, ih, Move.clock]

/-- What a holder has after the latest move. -/
theorem held?_after_cons (h : AreSound (move :: earlier)) (holder : Holder) :
    (after now notes (move :: earlier)).held? holder =
      match move.source? (Move.census earlier) holder with
      | none => some ⟨⟨(after now notes earlier).session.signals.made⟩, none⟩
      | some source => ((after now notes earlier).held? source).map
        (·.given (move.given? (Move.clock now earlier) holder)) := by
  have hc : (after now notes earlier).census = Move.census earlier := census_after now notes h.2
  rw [after, held?_apply (hc ▸ h.1), next?, hc, now_after]

/-- The handle of a context stays the same one until the context is put under another handle. -/
theorem held?_context_append {place : Nat} (h : AreSound (later ++ moves))
    (hm : (Move.census moves).Has (.context place))
    (hr : ∀ move ∈ later, ¬move.Replaces (.context place)) :
    (after now notes (later ++ moves)).held? (.context place) =
      (after now notes moves).held? (.context place) := by
  induction later with
  | nil => rfl
  | cons move later ih =>
    obtain ⟨hmove, hlater⟩ := List.forall_mem_cons.mp hr
    have hs : AreSound (move :: (later ++ moves)) := h
    rw [List.cons_append, held?_after_cons hs,
      Move.source?_of_has (Move.has_census_append hm later) hmove]
    -- No move gives a deadline to a context.
    simp only [ih hs.2 hlater, Move.given?, Cancellation.given_none, Option.map_id']

/-- The raised signals are those of the handles of all who have cancelled. -/
theorem mem_raised_after {signal : Signal} :
    signal ∈ (after now notes moves).session.signals.raised ↔
      ∃ later holder earlier handle, moves = later ++ .cancel holder :: earlier ∧
        (after now notes earlier).held? holder = some handle ∧ handle.signal = signal := by
  induction moves with
  | nil => simp [after, start, Session.start, Signals.atTime]
  | cons move earlier ih =>
    rw [after, mem_raised_apply, ih]
    constructor
    · rintro (⟨later, holder, before, handle, rfl, hh, hs⟩ | ⟨holder, handle, rfl, hh, hs⟩)
      · exact ⟨move :: later, holder, before, handle, rfl, hh, hs⟩
      · exact ⟨[], holder, earlier, handle, rfl, hh, hs⟩
    · rintro ⟨later, holder, before, handle, heq, hh, hs⟩
      cases later with
      | nil =>
        obtain ⟨rfl, rfl⟩ := List.cons.inj heq
        exact .inr ⟨holder, handle, rfl, hh, hs⟩
      | cons first later =>
        obtain ⟨rfl, rfl⟩ := List.cons.inj heq
        exact .inl ⟨later, holder, before, handle, rfl, hh, hs⟩

end Holdings

end Hanyu
