import Hanyu.Proofs.Failure
import Hanyu.Proofs.Watching
import Mathlib.Logic.Relation

/-!
# The life of a provider

In which order a pipeline calls its providers, whatever they are and however they answer.

* `isOpen`: a provider has been started with success, and not released with success since.
* `FollowsProtocol`: it works only while it is open, and is started only while it is not.
* `Stage.Asks`, `Stage.Turn`: what a stage asks of its provider, and in which phase. An operation
  makes no other request (`Act.turns_of_step`).
* `Stage.IsInOrder`: the phase of a stage tells whether its provider is open. No request breaks this
  or the protocol (`Stage.IsInOrder.turn`).
* `Stage.Course`: all that a run can do with the stages, call by call, and how it ends then. A run
  that is not rejected takes such a course (`Stage.course_processAll`), and a run that is rejected
  calls nobody (`Pipeline.process_eq_rejection`).
* `isDisciplined_of_applyAll`: all of this after any operations, for providers that nobody watches.
-/

namespace Hanyu

variable {σ π α : Type}

/-! ## Calls in order -/

namespace ProviderCall

/-- The call has made the provider ready. -/
def opens (call : ProviderCall) : Bool :=
  decide ((call.request = .start ∨ call.request = .restart) ∧ call.ending = .ok ())

/-- The call has made the provider give up what it held. -/
def closes (call : ProviderCall) : Bool :=
  decide (call.request = .release ∧ call.ending = .ok ())

end ProviderCall

/-- After these calls, the latest first, the provider is ready: it has been started or restarted
with success, and not released with success since. -/
def isOpen : List ProviderCall → Bool
  | [] => false
  | call :: earlier => call.opens || (!call.closes && isOpen earlier)

theorem isOpen_iff {calls : List ProviderCall} :
    isOpen calls = true ↔ ∃ later call earlier, calls = later ++ call :: earlier ∧
      call.opens = true ∧ ∀ other ∈ later, other.closes = false := by
  induction calls with
  | nil => simp [isOpen]
  | cons call calls ih =>
    simp only [isOpen, Bool.or_eq_true, Bool.and_eq_true, Bool.not_eq_true', ih]
    constructor
    · rintro (ho | ⟨hc, later, opening, earlier, rfl, ho, hl⟩)
      · exact ⟨[], call, calls, rfl, ho, by simp⟩
      · exact ⟨call :: later, opening, earlier, rfl, ho, List.forall_mem_cons.mpr ⟨hc, hl⟩⟩
    · rintro ⟨later, opening, earlier, heq, ho, hl⟩
      cases later with
      | nil =>
        obtain ⟨rfl, -⟩ := List.cons.inj heq
        exact .inl ho
      | cons first later =>
        obtain ⟨rfl, rfl⟩ := List.cons.inj heq
        obtain ⟨hc, hl⟩ := List.forall_mem_cons.mp hl
        exact .inr ⟨hc, later, opening, earlier, rfl, ho, hl⟩

/-- A call that fails neither opens nor closes anything. -/
@[simp] theorem isOpen_cons_error (request : Request) (cause : Fault) (calls : List ProviderCall) :
    isOpen (⟨request, .error cause⟩ :: calls) = isOpen calls := by
  simp [isOpen, ProviderCall.opens, ProviderCall.closes]

/-- Calls, the latest first, in an order that a provider may rely on. -/
structure FollowsProtocol (calls : List ProviderCall) : Prop where
  /-- It has to work only while it is ready. -/
  process : ∀ call earlier, call :: earlier <:+ calls → call.request = .process →
    isOpen earlier = true
  /-- It is started only while it is not. -/
  start : ∀ call earlier, call :: earlier <:+ calls → call.request = .start →
    isOpen earlier = false

theorem followsProtocol_nil : FollowsProtocol [] where
  process _ _ h _ := absurd (List.suffix_nil.mp h) (List.cons_ne_nil _ _)
  start _ _ h _ := absurd (List.suffix_nil.mp h) (List.cons_ne_nil _ _)

theorem FollowsProtocol.cons {calls : List ProviderCall} (h : FollowsProtocol calls)
    {call : ProviderCall} (hprocess : call.request = .process → isOpen calls = true)
    (hstart : call.request = .start → isOpen calls = false) : FollowsProtocol (call :: calls) where
  process other earlier hs hr := by
    rcases List.suffix_cons_iff.mp hs with heq | hs
    · obtain ⟨rfl, rfl⟩ := List.cons.inj heq
      exact hprocess hr
    · exact h.process other earlier hs hr
  start other earlier hs hr := by
    rcases List.suffix_cons_iff.mp hs with heq | hs
    · obtain ⟨rfl, rfl⟩ := List.cons.inj heq
      exact hstart hr
    · exact h.start other earlier hs hr

/-! ## What a stage asks of its provider -/

namespace Stage

section Performed

variable {request : Request} {operation : Operation} {after : Phase → Phase}
  {x : Attempt Fault (π × Session σ) α} {s t : Session σ}

variable [Provider σ π] {stage stage' : Stage (Watched π)}

theorem perform_noting_ok {a : α}
    (h : perform operation after (Watched.noting request x) (stage, s) = (.ok a, stage', t)) :
    stage'.provider.calls = ⟨request, .ok ()⟩ :: stage.provider.calls ∧
      stage'.phase = after stage.phase := by
  obtain ⟨hx, hp⟩ := perform_ok h
  exact ⟨Watched.calls_noting hx, hp⟩

theorem perform_noting_error {fault : Fault}
    (h : perform operation after (Watched.noting request x) (stage, s) =
      (.error fault, stage', t)) :
    ∃ cause, stage'.provider.calls = ⟨request, .error cause⟩ :: stage.provider.calls ∧
      stage'.phase = stage.phase ∧ fault = cause.inStage stage'.profile.name operation := by
  obtain ⟨cause, hx, hp, hf⟩ := perform_error h
  exact ⟨cause, Watched.calls_noting hx, hp, hf⟩

end Performed

/-- A request that a stage makes in a phase, and the phase that its success brings. -/
inductive Asks : Phase → Request → Phase → Prop where
  | configure (phase : Phase) : Asks phase .configure phase
  | start {phase : Phase} (h : phase ≠ .ready) : Asks phase .start .ready
  | restart (phase : Phase) : Asks phase .restart .ready
  | process : Asks .ready .process .ready
  | release {phase : Phase} (h : phase ≠ .released) : Asks phase .release .released

/-- A stage makes one of some requests to its provider. When it is refused, the phase stays as it
is. -/
inductive Turn (requests : List Request) (stage stage' : Stage (Watched π)) : Prop where
  | succeeded {request : Request} (hm : request ∈ requests)
    (h : Asks stage.phase request stage'.phase)
    (hc : stage'.provider.calls = ⟨request, .ok ()⟩ :: stage.provider.calls)
  | failed {request : Request} {after : Phase} {cause : Fault} (hm : request ∈ requests)
    (h : Asks stage.phase request after)
    (hc : stage'.provider.calls = ⟨request, .error cause⟩ :: stage.provider.calls)
    (hp : stage'.phase = stage.phase)

section Turns

open Relation (ReflTransGen)

variable {requests : List Request}

/-- What no request breaks, no requests in a row break. -/
theorem of_turns {P : Stage (Watched π) → Prop}
    (turn : ∀ {stage stage'}, P stage → Turn requests stage stage' → P stage')
    {stage stage' : Stage (Watched π)} (h : ReflTransGen (Turn requests) stage stage')
    (hs : P stage) : P stage' := by
  induction h with
  | refl => exact hs
  | tail _ ht ih => exact turn ih ht

variable [Provider σ π] {stage : Stage (Watched π)}

theorem turn_perform {request : Request} (hm : request ∈ requests) {operation : Operation}
    (after : Phase → Phase) {x : Attempt Fault (π × Session σ) α}
    (h : Asks stage.phase request (after stage.phase)) (s : Session σ) :
    Turn requests stage (perform operation after (Watched.noting request x) (stage, s)).2.1 := by
  cases hx : perform operation after (Watched.noting request x) (stage, s) with
  | mk result left =>
    obtain ⟨stage', t⟩ := left
    cases result with
    | ok a =>
      obtain ⟨hcalls, hphase⟩ := perform_noting_ok hx
      rw [← hphase] at h
      exact .succeeded hm h hcalls
    | error fault =>
      obtain ⟨cause, hcalls, hphase, -⟩ := perform_noting_error hx
      exact .failed hm h hcalls hphase

theorem turns_ensureReady (hm : .start ∈ requests) (stage : Stage (Watched π)) (s : Session σ) :
    ReflTransGen (Turn requests) stage (ensureReady (stage, s)).2.1 := by
  simp only [ensureReady]
  split
  · exact .refl
  · rename_i hp
    exact .single (turn_perform hm (fun _ => .ready) (.start hp) s)

theorem turns_release (hm : .release ∈ requests) (stage : Stage (Watched π)) (s : Session σ) :
    ReflTransGen (Turn requests) stage (release (stage, s)).2.1 := by
  simp only [release]
  split
  · exact .refl
  · rename_i hp
    exact .single (turn_perform hm (fun _ => .released) (.release hp) s)

theorem turns_process (hs : .start ∈ requests) (hm : .process ∈ requests) (context : RunContext σ)
    (batch : Batch) (stage : Stage (Watched π)) (s : Session σ) :
    ReflTransGen (Turn requests) stage (process context batch (stage, s)).2.1 := by
  have hready := turns_ensureReady hs stage s
  rcases process_cases context batch stage s with
    ⟨fault, stage', t, hr, hp⟩ | ⟨ready, t, hr, hphase, hp⟩
  · rw [hp]
    rwa [hr] at hready
  · rw [hp]
    rw [hr] at hready
    have hasks : Asks ready.phase .process (id ready.phase) := by
      rw [hphase]
      exact .process
    exact hready.tail (turn_perform hm id hasks t)

end Turns

end Stage

/-- The requests that an operation makes. -/
def Act.requests : Act σ → List Request
  | configure _ => [.configure]
  | start _ => [.start]
  | restart _ _ => [.restart]
  | process _ _ _ => [.start, .process]
  | close => [.release]
  | outside _ => []

/-- An operation makes its own requests only, and those that the phase of the stage allows. -/
theorem Act.turns_of_step [Provider σ π] {act : Act σ}
    {state state' : Stage (Watched π) × Session σ} (hstep : act.Step state state') :
    Relation.ReflTransGen (Stage.Turn act.requests) state.1 state'.1 := by
  cases hstep with
  | configure options =>
    exact .single (Stage.turn_perform (by simp [requests]) id (.configure _) state.2)
  | start context => exact Stage.turns_ensureReady (by simp [requests]) _ _
  | restart context fresh =>
    exact .single (Stage.turn_perform (by simp [requests]) (fun _ => .ready) (.restart _) state.2)
  | process context mode batch reached done stage s =>
    exact Stage.turns_process (by simp [requests]) (by simp [requests]) _ _ _ _
  | close => exact Stage.turns_release (by simp [requests]) _ _

/-- What no request of an operation breaks, the operation does not break. -/
theorem Act.forall_apply_of_turn [Provider σ π] {P : Stage (Watched π) → Prop} (act : Act σ)
    (turn : ∀ {stage stage'}, P stage → Stage.Turn act.requests stage stage' → P stage')
    (state : Pipeline (Watched π) × Session σ) (h : ∀ stage ∈ state.1.stages, P stage) :
    ∀ stage ∈ (act.apply state).1.stages, P stage :=
  Act.forall_apply (fun _ _ hstep hs => Stage.of_turns turn (Act.turns_of_step hstep) hs) state h

/-! ## Stages in order -/

namespace Stage

/-- The provider of a stage has been called in order, and the stage is ready when its provider is
open. -/
structure IsInOrder (stage : Stage (Watched π)) : Prop where
  ready_iff : stage.phase = .ready ↔ isOpen stage.provider.calls = true
  protocol : FollowsProtocol stage.provider.calls

theorem isInOrder_new (provider : π) : IsInOrder (.ofProvider (Watched.new provider)) where
  ready_iff := by simp [ofProvider, Watched.new, isOpen]
  protocol := followsProtocol_nil

section Asking

variable {phase after : Phase} {request : Request} {calls : List ProviderCall}

/-- The phase keeps telling whether the provider is open. -/
theorem Asks.ready_iff (h : Asks phase request after)
    (hopen : phase = .ready ↔ isOpen calls = true) :
    after = .ready ↔ isOpen (⟨request, .ok ()⟩ :: calls) = true := by
  cases h <;> simp_all [isOpen, ProviderCall.opens, ProviderCall.closes]

/-- A request is made in order when the phase tells whether the provider is open. -/
theorem Asks.followsProtocol (h : Asks phase request after)
    (hopen : phase = .ready ↔ isOpen calls = true) (hp : FollowsProtocol calls)
    (ending : Except Fault Unit) : FollowsProtocol (⟨request, ending⟩ :: calls) := by
  refine hp.cons (fun hr => ?_) (fun hr => ?_)
  · obtain rfl : request = .process := hr
    cases h
    exact hopen.mp rfl
  · obtain rfl : request = .start := hr
    cases h with
    | start hne => simpa [hopen] using hne

end Asking

/-- No request breaks the order. -/
theorem IsInOrder.turn {requests : List Request} {stage stage' : Stage (Watched π)}
    (h : stage.IsInOrder) (ht : Turn requests stage stage') : stage'.IsInOrder := by
  cases ht with
  | succeeded _ hasks hcalls =>
    refine ⟨?_, ?_⟩
    · rw [hcalls]
      exact hasks.ready_iff h.ready_iff
    · rw [hcalls]
      exact hasks.followsProtocol h.ready_iff h.protocol _
  | failed _ hasks hcalls hphase =>
    refine ⟨?_, ?_⟩
    · rw [hphase, hcalls, isOpen_cons_error, h.ready_iff]
    · rw [hcalls]
      exact hasks.followsProtocol h.ready_iff h.protocol _

end Stage

/-- No step of an operation breaks the order. -/
theorem Act.isInOrder_step [Provider σ π] {act : Act σ}
    {state state' : Stage (Watched π) × Session σ} (hstep : act.Step state state')
    (h : state.1.IsInOrder) : state'.1.IsInOrder :=
  Stage.of_turns (fun h ht => h.turn ht) (Act.turns_of_step hstep) h

/-! ## Courses of runs -/

namespace Stage

/-- The calls by which a run makes a provider ready: none when it is. -/
def openings (calls : List ProviderCall) : List ProviderCall :=
  if isOpen calls = true then [] else [⟨.start, .ok ()⟩]

section

variable [Provider σ π]

/-- A run has made a stage ready and has had it work. -/
def HasWorked (stage stage' : Stage (Watched π)) : Prop :=
  stage'.provider.calls =
    ⟨.process, .ok ()⟩ :: openings stage.provider.calls ++ stage.provider.calls

/-- A run has failed with a fault at a stage. The fault of the call that failed is in it, wrapped
with the stage and the operation. -/
inductive HasFailed (stage stage' : Stage (Watched π)) : Fault → Prop where
  | start {cause : Fault} (ho : isOpen stage.provider.calls = false)
    (hc : stage'.provider.calls = ⟨.start, .error cause⟩ :: stage.provider.calls) :
    HasFailed stage stage' (cause.inStage stage'.profile.name .start)
  | process {cause : Fault}
    (hc : stage'.provider.calls =
      ⟨.process, .error cause⟩ :: openings stage.provider.calls ++ stage.provider.calls) :
    HasFailed stage stage' (cause.inStage stage'.profile.name .process)

/-- What a run in a mode does with the stages, and how it ends. -/
inductive Course (mode : Mode) :
    List (Stage (Watched π)) → Except Fault Unit → List (Stage (Watched π)) → Prop where
  | done : Course mode [] (.ok ()) []
  /-- A stage that is not selected is not touched. -/
  | passed {stage : Stage (Watched π)} {stages stages' : List (Stage (Watched π))}
    {ending : Except Fault Unit} (hm : mode.selects stage.profile.kind = false)
    (h : Course mode stages ending stages') :
    Course mode (stage :: stages) ending (stage :: stages')
  | worked {stage stage' : Stage (Watched π)} {stages stages' : List (Stage (Watched π))}
    {ending : Except Fault Unit} (hm : mode.selects stage.profile.kind = true)
    (hw : stage.HasWorked stage') (h : Course mode stages ending stages') :
    Course mode (stage :: stages) ending (stage' :: stages')
  /-- The run ends where it fails: the stages after it are not touched. -/
  | failed {stage stage' : Stage (Watched π)} (stages : List (Stage (Watched π))) {fault : Fault}
    (hm : mode.selects stage.profile.kind = true) (hf : stage.HasFailed stage' fault) :
    Course mode (stage :: stages) (.error fault) (stage' :: stages)

theorem not_mem_openings (request : Request) (cause : Fault) (calls : List ProviderCall) :
    ⟨request, .error cause⟩ ∉ openings calls := by
  unfold openings
  split <;> simp

section Failing

variable {stage stage' : Stage (Watched π)} {made : List ProviderCall} {request : Request}
  {cause : Fault}

/-- A stage that has worked had no call that failed. -/
theorem HasWorked.not_mem (h : stage.HasWorked stage')
    (hc : stage'.provider.calls = made ++ stage.provider.calls) :
    ⟨request, .error cause⟩ ∉ made := by
  obtain rfl := List.append_cancel_right (h.symm.trans hc)
  simp [not_mem_openings]

/-- The fault of the call that failed is the one inside. -/
theorem HasFailed.eq_inStage {fault : Fault} (h : stage.HasFailed stage' fault)
    (hc : stage'.provider.calls = made ++ stage.provider.calls)
    (hf : ⟨request, .error cause⟩ ∈ made) :
    fault = cause.inStage stage'.profile.name request.operation := by
  cases h with
  | start _ hcalls =>
    have hmade : made = [_] := List.append_cancel_right (hc.symm.trans hcalls)
    rw [hmade, List.mem_singleton] at hf
    cases hf
    rfl
  | process hcalls =>
    rw [List.append_cancel_right (hc.symm.trans hcalls)] at hf
    rcases List.mem_cons.mp hf with heq | hopening
    · cases heq
      rfl
    · exact absurd hopening (not_mem_openings _ _ _)

end Failing

namespace Course

variable {mode : Mode} {ending : Except Fault Unit} {stage stage' : Stage (Watched π)}
  {stages stages' before before' after after' : List (Stage (Watched π))}

theorem cons_cases (h : Course mode (stage :: stages) ending (stage' :: stages')) :
    (Course mode stages ending stages' ∧
        (mode.selects stage.profile.kind = false ∧ stage' = stage ∨
          mode.selects stage.profile.kind = true ∧ stage.HasWorked stage')) ∨
      stages' = stages ∧ mode.selects stage.profile.kind = true ∧
        ∃ fault, ending = .error fault ∧ stage.HasFailed stage' fault := by
  cases h with
  | passed hm h => exact .inl ⟨h, .inl ⟨hm, rfl⟩⟩
  | worked hm hw h => exact .inl ⟨h, .inr ⟨hm, hw⟩⟩
  | failed _ hm hf => exact .inr ⟨rfl, hm, _, rfl, hf⟩

/-- In every place a stage is the same one or has worked, or the run has failed there. -/
theorem split (hl : before'.length = before.length)
    (h : Course mode (before ++ stage :: after) ending (before' ++ stage' :: after')) :
    stage' = stage ∨
      mode.selects stage.profile.kind = true ∧
        (stage.HasWorked stage' ∨
          after' = after ∧ ∃ fault, ending = .error fault ∧ stage.HasFailed stage' fault) := by
  induction before generalizing before' with
  | nil =>
    obtain rfl := List.eq_nil_of_length_eq_zero hl
    rcases cons_cases h with ⟨-, ⟨-, hs⟩ | ⟨hm, hw⟩⟩ | ⟨ha, hm, hf⟩
    · exact .inl hs
    · exact .inr ⟨hm, .inl hw⟩
    · exact .inr ⟨hm, .inr ⟨ha, hf⟩⟩
  | cons first before ih =>
    obtain ⟨first', before', rfl⟩ := List.exists_cons_of_length_eq_add_one hl
    have hl' : before'.length = before.length := Nat.succ.inj hl
    rcases cons_cases h with ⟨hrest, -⟩ | ⟨hrest, -⟩
    · exact ih hl' hrest
    · exact .inl (List.cons.inj (List.append_inj hrest hl').2).1

/-- A stage that the mode does not select stays as it is. -/
theorem untouched (hl : before'.length = before.length)
    (h : Course mode (before ++ stage :: after) ending (before' ++ stage' :: after'))
    (hm : mode.selects stage.profile.kind = false) : stage' = stage := by
  rcases h.split hl with hs | ⟨hsel, -⟩
  · exact hs
  · rw [hm] at hsel
    cases hsel

/-- When a call of the run fails, the run fails with the fault of this call, wrapped with its stage
and its operation, and the stages after that one stay as they are. -/
theorem blames (hl : before'.length = before.length)
    (h : Course mode (before ++ stage :: after) ending (before' ++ stage' :: after'))
    {made : List ProviderCall} {request : Request} {cause : Fault}
    (hc : stage'.provider.calls = made ++ stage.provider.calls)
    (hf : ⟨request, .error cause⟩ ∈ made) :
    ending = .error (cause.inStage stage'.profile.name request.operation) ∧ after' = after := by
  rcases h.split hl with hs | ⟨-, hw | ⟨ha, fault, he, hfail⟩⟩
  · rw [hs] at hc
    rw [List.self_eq_append_left.mp hc] at hf
    cases hf
  · exact absurd hf (hw.not_mem hc)
  · exact ⟨by rw [he, hfail.eq_inStage hc hf], ha⟩

end Course

/-! ## Runs and their courses -/

section Runs

variable {context : RunContext σ} {batch : Batch} {stage stage' : Stage (Watched π)}
  {s t : Session σ}

theorem calls_of_ensureReady_ok (h : stage.IsInOrder)
    (hr : Stage.ensureReady (stage, s) = (.ok (), stage', t)) :
    stage'.provider.calls = openings stage.provider.calls ++ stage.provider.calls := by
  rcases ensureReady_ok hr with ⟨hp, rfl, -⟩ | ⟨hp, -, hx⟩
  · rw [openings, if_pos (h.ready_iff.mp hp), List.nil_append]
  · rw [openings, if_neg (fun ho => hp (h.ready_iff.mpr ho))]
    exact Watched.calls_noting hx

theorem hasWorked_of_process {out : Batch} (h : stage.IsInOrder)
    (hp : Stage.process context batch (stage, s) = (.ok out, stage', t)) :
    stage.HasWorked stage' := by
  obtain ⟨ready, u, hr, hx⟩ := process_ok hp
  have hcalls := Watched.calls_noting hx
  rwa [calls_of_ensureReady_ok h hr] at hcalls

theorem hasFailed_of_process {fault : Fault} (h : stage.IsInOrder)
    (hp : Stage.process context batch (stage, s) = (.error fault, stage', t)) :
    stage.HasFailed stage' fault := by
  rcases process_error hp with hr | ⟨ready, u, cause, hr, hx, rfl⟩
  · obtain ⟨hphase, -, cause, hx, rfl⟩ := ensureReady_error hr
    refine .start ?_ (Watched.calls_noting hx)
    simpa [h.ready_iff] using hphase
  · have hcalls := Watched.calls_noting hx
    rw [calls_of_ensureReady_ok h hr] at hcalls
    exact .process hcalls

/-- A run through stages that are in order takes a course. -/
theorem course_processAll (context : RunContext σ) (mode : Mode) (done : UInt64) (batch : Batch)
    {stages : List (Stage (Watched π))} (h : ∀ stage ∈ stages, stage.IsInOrder) (s : Session σ) :
    Course mode stages ((processAll context mode done batch stages s).1.map fun _ => ())
      (processAll context mode done batch stages s).2.1 := by
  induction stages generalizing done batch s with
  | nil => exact .done
  | cons stage stages ih =>
    obtain ⟨hstage, hrest⟩ := List.forall_mem_cons.mp h
    rw [processAll]
    by_cases hm : mode.selects stage.profile.kind = true
    · rw [if_pos hm]
      split
      · rename_i fault stage' t hp
        exact .failed stages hm (hasFailed_of_process hstage hp)
      · rename_i out stage' t hp
        exact .worked hm (hasWorked_of_process hstage hp) (ih _ _ hrest t)
    · rw [if_neg hm]
      exact .passed (by simpa using hm) (ih _ _ hrest s)

end Runs

end

end Stage

/-! ## Pipelines -/

namespace Pipeline

variable [Provider σ π]

/-- What a run is rejected for before it calls anybody. -/
def rejection? (context : RunContext σ) (mode : Mode) (batch : Batch)
    (state : Pipeline π × Session σ) : Option Fault :=
  match context.cancellation.reason? state.2.signals with
  | some reason => some (.cancelled reason)
  | none =>
    if state.1.supports mode = false then
      some (.configuration (.unsupportedMode state.1.name mode))
    else if mode = .transliterate ∧ batch.raw ≠ [] then some (.configuration .rawChunks)
    else none

/-- A run is rejected, and nothing happens, or it goes through the stages. -/
theorem process_eq_rejection (context : RunContext σ) (mode : Mode) (batch : Batch)
    (state : Pipeline π × Session σ) :
    process context mode batch state =
      match rejection? context mode batch state with
      | some fault => (.error fault, state)
      | none => onStages (Stage.processAll context mode 0 batch) state := by
  obtain ⟨pipeline, s⟩ := state
  have hc : (context.check s).1 = context.cancellation.check s.signals := rfl
  rw [process, check_bind, hc, Cancellation.check, rejection?]
  cases hreason : context.cancellation.reason? s.signals with
  | some reason => rfl
  | none =>
    by_cases hs : pipeline.supports mode = false
    · have ha : admits mode batch (pipeline, s) =
          (.error (.configuration (.unsupportedMode pipeline.name mode)), pipeline, s) := by
        simp [admits, hs]
      rw [if_pos hs]
      exact Attempt.run_bind_error ha
    · rw [if_neg hs]
      rw [Bool.not_eq_false] at hs
      by_cases hr : mode = .transliterate ∧ batch.raw ≠ []
      · have ha : admits mode batch (pipeline, s) =
            (.error (.configuration .rawChunks), pipeline, s) := by
          simp [admits, ← hr.1, hs, hr.2]
        rw [if_pos hr]
        exact Attempt.run_bind_error ha
      · have ha : admits mode batch (pipeline, s) = (.ok (), pipeline, s) := by
          simp [admits, hs, hr]
        rw [if_neg hr]
        exact Attempt.run_bind_ok ha

end Pipeline

/-- What holds of a pipeline whose providers are watched, in every state that it comes into. -/
structure Pipeline.IsDisciplined [Provider σ π] (pipeline : Pipeline (Watched π))
    (session : Session σ) : Prop where
  /-- No provider has to work when it is not ready, and none is started when it is. -/
  protocol : ∀ stage ∈ pipeline.stages, FollowsProtocol stage.provider.calls
  /-- A run that is rejected calls nobody and changes nothing. -/
  rejected : ∀ context mode batch fault,
    rejection? context mode batch (pipeline, session) = some fault →
      process context mode batch (pipeline, session) = (.error fault, pipeline, session)
  /-- Every other run takes its course through the stages. -/
  course : ∀ context mode batch, rejection? context mode batch (pipeline, session) = none →
    Stage.Course mode pipeline.stages
      ((process context mode batch (pipeline, session)).1.map fun _ => ())
      (process context mode batch (pipeline, session)).2.1.stages

/-- **Providers are called in order.** After any operations on a pipeline of any providers, however
they have answered, every provider has worked only while it was ready and has been started only
while it was not; a run that is rejected calls nobody, and every other run takes its course. To see
this the providers are watched, which changes nothing. -/
theorem isDisciplined_of_applyAll [Provider σ π] (name : Text) (limit : Nat) (providers : List π)
    (acts : List (Act σ)) (session : Session σ) :
    let plain := Act.applyAll acts (Pipeline.ofProviders name limit providers, session)
    let watched := Act.applyAll acts
      (Pipeline.ofProviders name limit (providers.map Watched.new), session)
    plain = Prod.map (Pipeline.map Watched.provider) id watched ∧
      (∀ context mode batch, (Pipeline.process context mode batch plain).1 =
        (Pipeline.process context mode batch watched).1) ∧
      watched.1.IsDisciplined watched.2 := by
  intro plain watched
  have hnew : ∀ stage ∈ (Pipeline.ofProviders name limit (providers.map Watched.new)).stages,
      stage.IsInOrder := by
    intro stage hm
    obtain ⟨watch, hw, rfl⟩ := List.mem_map.mp hm
    obtain ⟨provider, -, rfl⟩ := List.mem_map.mp hw
    exact Stage.isInOrder_new provider
  have horder : ∀ stage ∈ watched.1.stages, stage.IsInOrder :=
    Act.applyAll_induction (P := fun state => ∀ stage ∈ state.1.stages, stage.IsInOrder)
      (fun act state h => act.forall_apply (fun _ _ => Act.isInOrder_step) state h) acts hnew
  have hplain : plain = Prod.map (Pipeline.map Watched.provider) id watched := by
    rw [← Watched.isView.applyAll_map acts, Prod.map_apply, Pipeline.map_ofProviders_new]
    rfl
  refine ⟨hplain, fun context mode batch => ?_, ⟨?_, ?_, ?_⟩⟩
  · rw [hplain]
    exact congrArg Prod.fst (Watched.isView.through_process context mode batch watched)
  · exact fun stage hm => (horder stage hm).protocol
  · intro context mode batch fault h
    rw [Pipeline.process_eq_rejection, h]
  · intro context mode batch h
    rw [Pipeline.process_eq_rejection, h]
    exact Stage.course_processAll context mode 0 batch horder watched.2

end Hanyu
