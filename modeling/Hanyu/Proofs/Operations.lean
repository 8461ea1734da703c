import Hanyu.Proofs.Success

/-!
# Operations on a pipeline

What is done with a pipeline, one operation after the other, and how a property of stages gets
through: what no operation of a stage breaks, no operation of a pipeline breaks.

* `Act`, `Act.apply`, `Act.applyAll`: the operations, and what they leave behind.
* `Attempt.Maintains`: an attempt does not break a property of states, whether it fails or not.
* `Callback.IsQuiet`, `RunContext.IsQuiet`: code from outside does not touch a part of the notes.
* `Stage.Keeps`: an attempt on a stage does not break a property of stages.
* `Stage.getElem?_forAll`: going through stages changes those that it comes to, and no others.
* `Stage.processAll_append`: a run comes to a stage when the stages before it have succeeded.
* `Stage.process_cases`: a stage that cannot be made ready does not come to its work.
* `Pipeline.process_eq`, `Pipeline.snd_process`: a run goes through the stages, or leaves them alone.
* `Act.visits`: every operation takes its step with some of the stages in order, and with no other.
  So what no step breaks, no operation breaks (`Act.forall_apply`), and what no step changes, no
  operation changes (`Act.map_stages_apply`).
* `Provider.Keeps`: no operation of a provider breaks a property of providers. Then no operations
  on a pipeline break it (`Act.keeps_applyAll`).
-/

namespace Hanyu

variable {σ π α : Type}

/-! ## Acts -/

/-- An operation on a pipeline. -/
inductive Act (σ : Type) where
  | configure (options : Options)
  | start (context : RunContext σ)
  | restart (context : RunContext σ) (fresh : Bool)
  | process (context : RunContext σ) (mode : Mode) (batch : Batch)
  | close
  /-- Something happens outside: signals are raised, time passes, and notes are changed. -/
  | outside (session : Session σ)

/-- What an operation leaves behind, whether it fails or not. -/
def Act.apply [Provider σ π] (act : Act σ) (state : Pipeline π × Session σ) :
    Pipeline π × Session σ :=
  match act with
  | configure options => (Pipeline.configure options state).2
  | start context => (Pipeline.start context state).2
  | restart context fresh => (Pipeline.restart context fresh state).2
  | process context mode batch => (Pipeline.process context mode batch state).2
  | close => (Pipeline.close state).2
  | outside session => (state.1, session)

/-- What operations leave behind, one after the other. -/
def Act.applyAll [Provider σ π] (acts : List (Act σ)) (state : Pipeline π × Session σ) :
    Pipeline π × Session σ :=
  acts.foldl (fun state act => act.apply state) state

/-! ## Properties of states -/

/-- An attempt does not break `I`, whether it fails or not. -/
def Attempt.Maintains {ε : Type} (I : σ → Prop) (x : Attempt ε σ α) : Prop := ∀ s, I s → I (x s).2

theorem Attempt.Maintains.bind {ε β : Type} {I : σ → Prop} {x : Attempt ε σ α}
    {f : α → Attempt ε σ β} (hx : Maintains I x) (hf : ∀ a, Maintains I (f a)) :
    Maintains I (x >>= f) :=
  between_bind (R := fun s t => I s → I t) (fun hst htu hs => htu (hst hs)) hx hf

theorem Attempt.Maintains.pure {ε : Type} {I : σ → Prop} (a : α) :
    Maintains I (Pure.pure a : Attempt ε σ α) := fun _ hs => hs

/-- Working through items does not break what neither the work nor a report breaks. -/
theorem RunContext.maintains_workFrom {β : Type} {I : Session σ → Prop} {context : RunContext σ}
    {work : α → Attempt Fault (Session σ) β} (hw : ∀ item, Attempt.Maintains I (work item))
    (hr : ∀ done total s, I s → I (context.reported done total s)) (interval total place : Nat)
    (items : List α) :
    Attempt.Maintains I (context.workFrom interval total work place items) := by
  induction items generalizing place with
  | nil => exact Attempt.Maintains.pure _
  | cons item items ih =>
    have hsteps : Attempt.Maintains I (work item >>= fun result =>
        context.report (place + 1) total >>= fun _ =>
          context.workFrom interval total work (place + 1) items >>= fun rest =>
            Pure.pure (result :: rest)) :=
      (hw item).bind fun _ => Attempt.Maintains.bind (fun s hs => hr _ _ s hs) fun _ =>
        (ih _).bind fun _ => Attempt.Maintains.pure _
    rw [workFrom]
    by_cases hc : place % interval = 0
    · rw [if_pos hc]
      exact Attempt.Maintains.bind (fun _ hs => hs) fun _ => hsteps
    · rw [if_neg hc]
      exact hsteps

theorem RunContext.maintains_workThrough {β : Type} {I : Session σ → Prop} {context : RunContext σ}
    {work : α → Attempt Fault (Session σ) β} (hw : ∀ item, Attempt.Maintains I (work item))
    (hr : ∀ done total s, I s → I (context.reported done total s)) (interval : Nat)
    (items : List α) : Attempt.Maintains I (context.workThrough interval work items) :=
  (maintains_workFrom hw hr interval items.length 0 items).bind fun _ =>
    Attempt.Maintains.bind (fun s hs => hr _ _ s hs) fun _ => Attempt.Maintains.pure _

/-! ## What is seen of the notes -/

section Quiet

variable {γ : Type}

/-- A callback does not touch what is seen of the notes. -/
def Callback.IsQuiet (seen : σ → γ) (callback : Callback σ α) : Prop :=
  ∀ notes, seen (callback notes).notes = seen notes

/-- The display of progress, if there is one, does not touch what is seen of the notes. -/
def RunContext.IsQuiet (seen : σ → γ) (context : RunContext σ) : Prop :=
  ∀ progress, context.progress = some progress → ∀ done total, (progress done total).IsQuiet seen

theorem RunContext.IsQuiet.reported {seen : σ → γ} {context : RunContext σ}
    (h : context.IsQuiet seen) (done total : UInt64) (s : Session σ) :
    seen (context.reported done total s).notes = seen s.notes := by
  unfold RunContext.reported
  split
  · rfl
  · rename_i progress hp
    exact h progress hp _ _ _

theorem Callback.IsQuiet.maintains_consult {seen : σ → γ}
    {callback : Callback σ (Except Fault α)} (h : callback.IsQuiet seen) (value : γ) :
    Attempt.Maintains (fun s => seen s.notes = value) (Session.consult callback) :=
  fun s hs => (h s.notes).trans hs

end Quiet

namespace Stage

/-! ## Properties of stages -/

/-- An attempt on a stage does not break `P`. -/
def Keeps (P : Stage π → Prop) (x : Attempt Fault (Stage π × Session σ) α) : Prop :=
  ∀ stage s, P stage → P (x (stage, s)).2.1

theorem Keeps.bind {β : Type} {P : Stage π → Prop} {x : Attempt Fault (Stage π × Session σ) α}
    {f : α → Attempt Fault (Stage π × Session σ) β} (hx : Keeps P x) (hf : ∀ a, Keeps P (f a)) :
    Keeps P (x >>= f) := by
  intro stage s
  refine Attempt.between_bind (R := fun before after : Stage π × Session σ =>
    P before.1 → P after.1) ?_ (fun left => hx left.1 left.2)
    (fun a left => hf a left.1 left.2) (stage, s)
  exact fun hfirst hlast hs => hlast (hfirst hs)

/-- The stage at a place, and the session in which going through stages with `x` comes to it, if it
does. -/
def arrival (x : Attempt Fault (Stage π × Session σ) Unit) :
    List (Stage π) → Session σ → Nat → Option (Stage π × Session σ)
  | [], _, _ => none
  | stage :: _, session, 0 => some (stage, session)
  | stage :: stages, session, place + 1 =>
    match x (stage, session) with
    | (.ok (), _, session) => arrival x stages session place
    | (.error _, _, _) => none

theorem getElem?_of_arrival {x : Attempt Fault (Stage π × Session σ) Unit}
    {stages : List (Stage π)} {s t : Session σ} {place : Nat} {stage : Stage π}
    (h : arrival x stages s place = some (stage, t)) : stages[place]? = some stage := by
  induction stages generalizing s place with
  | nil => cases h
  | cons first stages ih =>
    cases place with
    | zero =>
      cases h
      rfl
    | succ place =>
      rw [arrival] at h
      split at h
      · exact ih h
      · cases h

/-- Going through stages with `x` changes those that it comes to, and no others. -/
theorem getElem?_forAll (x : Attempt Fault (Stage π × Session σ) Unit) (stages : List (Stage π))
    (s : Session σ) (place : Nat) :
    (forAll x stages s).2.1[place]? =
      (arrival x stages s place).elim stages[place]? fun state => some (x state).2.1 := by
  induction stages generalizing s place with
  | nil => rfl
  | cons stage stages ih =>
    rw [forAll]
    cases h : x (stage, s) with
    | mk answer left =>
      obtain ⟨stage', t⟩ := left
      cases place with
      | zero => cases answer <;> simp [arrival, Outcome.cons, h]
      | succ place =>
        cases answer with
        | ok => simpa [arrival, Outcome.cons, h] using ih t place
        | error fault => simp [arrival, h]

variable [Provider σ π]

/-- A run that gets through the first stages goes on with the others. -/
theorem processAll_append {context : RunContext σ} {mode : Mode} {done : UInt64}
    {batch reached : Batch} {before before' : List (Stage π)} {s t : Session σ}
    (h : processAll context mode done batch before s = (.ok reached, before', t))
    (after : List (Stage π)) :
    ∃ done', processAll context mode done batch (before ++ after) s =
      ((processAll context mode done' reached after t).1,
        before' ++ (processAll context mode done' reached after t).2.1,
        (processAll context mode done' reached after t).2.2) := by
  induction before generalizing done batch before' s with
  | nil =>
    cases h
    exact ⟨done, rfl⟩
  | cons stage before ih =>
    rw [processAll] at h
    rw [List.cons_append, processAll]
    by_cases hm : mode.selects stage.profile.kind = true
    · rw [if_pos hm] at h ⊢
      split at h
      · cases h
      · rename_i out stage' u hp
        obtain ⟨h₁, h₂⟩ := Prod.mk.inj h
        obtain ⟨rfl, h₃⟩ := Prod.mk.inj h₂
        obtain ⟨done', ha⟩ := ih (Prod.ext h₁ (Prod.ext rfl h₃))
        exact ⟨done', by simp only [Outcome.cons, ha, List.cons_append]⟩
    · rw [if_neg hm] at h ⊢
      obtain ⟨h₁, h₂⟩ := Prod.mk.inj h
      obtain ⟨rfl, h₃⟩ := Prod.mk.inj h₂
      obtain ⟨done', ha⟩ := ih (Prod.ext h₁ (Prod.ext rfl h₃))
      exact ⟨done', by simp only [Outcome.cons, ha, List.cons_append]⟩

/-- A run that fails in the first stages does not come to the others. -/
theorem processAll_append_error {context : RunContext σ} {mode : Mode} {done : UInt64}
    {batch : Batch} {before before' : List (Stage π)} {s t : Session σ} {fault : Fault}
    (h : processAll context mode done batch before s = (.error fault, before', t))
    (after : List (Stage π)) :
    processAll context mode done batch (before ++ after) s =
      (.error fault, before' ++ after, t) := by
  induction before generalizing done batch before' s with
  | nil => cases h
  | cons stage before ih =>
    rw [processAll] at h
    rw [List.cons_append, processAll]
    by_cases hm : mode.selects stage.profile.kind = true
    · rw [if_pos hm] at h ⊢
      split at h
      · cases h
        rfl
      · obtain ⟨h₁, h₂⟩ := Prod.mk.inj h
        obtain ⟨rfl, h₃⟩ := Prod.mk.inj h₂
        rw [ih (Prod.ext h₁ (Prod.ext rfl h₃))]
        rfl
    · rw [if_neg hm] at h ⊢
      obtain ⟨h₁, h₂⟩ := Prod.mk.inj h
      obtain ⟨rfl, h₃⟩ := Prod.mk.inj h₂
      rw [ih (Prod.ext h₁ (Prod.ext rfl h₃))]
      rfl

/-- An operation of a stage is one of its provider, but for the phase and the wording of failures. -/
theorem snd_perform (operation : Operation) (after : Phase → Phase)
    (x : Attempt Fault (π × Session σ) α) (stage : Stage π) (s : Session σ) :
    (perform operation after x (stage, s)).2.1.provider = (x (stage.provider, s)).2.1 ∧
      (perform operation after x (stage, s)).2.2 = (x (stage.provider, s)).2.2 := by
  simp only [perform]
  cases hx : x (stage.provider, s) with
  | mk result left => cases result <;> exact ⟨rfl, rfl⟩

/-- A stage that cannot be made ready does not come to its work. -/
theorem process_cases (context : RunContext σ) (batch : Batch) (stage : Stage π) (s : Session σ) :
    (∃ fault stage' t, ensureReady (stage, s) = (.error fault, stage', t) ∧
        process context batch (stage, s) = (.error fault, stage', t)) ∨
      ∃ ready t, ensureReady (stage, s) = (.ok (), ready, t) ∧ ready.phase = .ready ∧
        process context batch (stage, s) =
          perform .process id (Provider.process context batch) (ready, t) := by
  cases h : ensureReady (stage, s) with
  | mk result left =>
    obtain ⟨ready, t⟩ := left
    cases result with
    | error fault => exact .inl ⟨fault, ready, t, rfl, Attempt.run_bind_error h⟩
    | ok _ =>
      have hphase : ready.phase = .ready := by
        rcases ensureReady_ok h with ⟨hp, rfl, -⟩ | ⟨-, hp, -⟩ <;> exact hp
      exact .inr ⟨ready, t, rfl, hphase, Attempt.run_bind_ok h⟩

/-! ## Visits -/

/-- Stages in order, some of which take a step of `X` in the session that the stages before them
left, while the others are passed by. -/
inductive Visits (X : Stage π × Session σ → Stage π × Session σ → Prop) :
    List (Stage π) × Session σ → List (Stage π) × Session σ → Prop where
  | nil (s : Session σ) : Visits X ([], s) ([], s)
  | visited {stage stage' : Stage π} {stages stages' : List (Stage π)} {s t u : Session σ}
    (hx : X (stage, s) (stage', t)) (h : Visits X (stages, t) (stages', u)) :
    Visits X (stage :: stages, s) (stage' :: stages', u)
  | passed {stage : Stage π} {stages stages' : List (Stage π)} {s t : Session σ}
    (h : Visits X (stages, s) (stages', t)) : Visits X (stage :: stages, s) (stage :: stages', t)

omit [Provider σ π] in
theorem Visits.refl {X : Stage π × Session σ → Stage π × Session σ → Prop}
    (stages : List (Stage π)) (s : Session σ) : Visits X (stages, s) (stages, s) := by
  induction stages with
  | nil => exact .nil s
  | cons stage stages ih => exact .passed ih

omit [Provider σ π] in
/-- What no step breaks, no visit breaks. -/
theorem Visits.forall {X : Stage π × Session σ → Stage π × Session σ → Prop} {P : Stage π → Prop}
    (hx : ∀ state state', X state state' → P state.1 → P state'.1)
    {a b : List (Stage π) × Session σ} (h : Visits X a b) (ha : ∀ stage ∈ a.1, P stage) :
    ∀ stage ∈ b.1, P stage := by
  induction h with
  | nil => exact ha
  | visited hstep _ ih =>
    obtain ⟨hstage, hrest⟩ := List.forall_mem_cons.mp ha
    exact List.forall_mem_cons.mpr ⟨hx _ _ hstep hstage, ih hrest⟩
  | passed _ ih =>
    obtain ⟨hstage, hrest⟩ := List.forall_mem_cons.mp ha
    exact List.forall_mem_cons.mpr ⟨hstage, ih hrest⟩

omit [Provider σ π] in
/-- What no step changes, no visit changes. -/
theorem Visits.map_eq {X : Stage π × Session σ → Stage π × Session σ → Prop} {f : Stage π → α}
    (hx : ∀ state state', X state state' → f state'.1 = f state.1)
    {a b : List (Stage π) × Session σ} (h : Visits X a b) : b.1.map f = a.1.map f := by
  induction h with
  | nil => rfl
  | visited hstep _ ih => rw [List.map_cons, List.map_cons, hx _ _ hstep, ih]
  | passed _ ih => rw [List.map_cons, List.map_cons, ih]

/-- Closing releases every stage. -/
theorem exists_of_mem_releaseAll {stages : List (Stage π)} {s : Session σ} {stage' : Stage π}
    (hm : stage' ∈ (releaseAll stages s).2.1) :
    ∃ stage ∈ stages, ∃ t, stage' = (release (stage, t)).2.1 := by
  induction stages generalizing s with
  | nil => cases hm
  | cons stage stages ih =>
    have hcons : stage' = (release (stage, s)).2.1 ∨
        ∃ t, stage' ∈ (releaseAll stages t : Outcome σ π Unit).2.1 := by
      rw [releaseAll] at hm
      split at hm
      · rename_i released t h
        rw [h]
        exact (List.mem_cons.mp hm).imp_right fun hrest => ⟨t, hrest⟩
      · rename_i fault released t h
        rw [h]
        exact (List.mem_cons.mp hm).imp_right fun hrest => ⟨t, hrest⟩
    rcases hcons with rfl | ⟨t, hrest⟩
    · exact ⟨stage, List.mem_cons_self, s, rfl⟩
    · obtain ⟨first, hfirst, u, rfl⟩ := ih hrest
      exact ⟨first, List.mem_cons_of_mem _ hfirst, u, rfl⟩

omit [Provider σ π] in
theorem visits_forAll {X : Stage π × Session σ → Stage π × Session σ → Prop}
    {x : Attempt Fault (Stage π × Session σ) Unit} (hx : ∀ state, X state (x state).2)
    (stages : List (Stage π)) (s : Session σ) : Visits X (stages, s) (forAll x stages s).2 := by
  induction stages generalizing s with
  | nil => exact .nil s
  | cons stage stages ih =>
    have hstage := hx (stage, s)
    rw [forAll]
    split
    · rename_i fault stage' t h
      rw [h] at hstage
      exact .visited hstage (.refl stages t)
    · rename_i stage' t h
      rw [h] at hstage
      exact .visited hstage (ih t)

theorem visits_releaseAll {X : Stage π × Session σ → Stage π × Session σ → Prop}
    (hx : ∀ state, X state (release state).2) (stages : List (Stage π)) (s : Session σ) :
    Visits X (stages, s) (releaseAll stages s).2 := by
  induction stages generalizing s with
  | nil => exact .nil s
  | cons stage stages ih =>
    have hstage := hx (stage, s)
    rw [releaseAll]
    split
    · rename_i stage' t h
      rw [h] at hstage
      exact .visited hstage (ih t)
    · rename_i fault stage' t h
      rw [h] at hstage
      exact .visited hstage (ih t)

theorem visits_processAll {X : Stage π × Session σ → Stage π × Session σ → Prop}
    {context : RunContext σ} {mode : Mode}
    (hx : ∀ done batch stage s,
      X (stage, s) (process (context.offset done) batch (stage, { s with stageTotal := 0 })).2)
    (done : UInt64) (batch : Batch) (stages : List (Stage π)) (s : Session σ) :
    Visits X (stages, s) (processAll context mode done batch stages s).2 := by
  induction stages generalizing done batch s with
  | nil => exact .nil s
  | cons stage stages ih =>
    have hstage := hx done batch stage s
    rw [processAll]
    split
    · split
      · rename_i fault stage' t h
        rw [h] at hstage
        exact .visited hstage (.refl stages t)
      · rename_i out stage' t h
        rw [h] at hstage
        exact .visited hstage (ih _ _ t)
    · exact .passed (ih _ _ s)

end Stage

/-! ## Pipelines -/

namespace Pipeline

theorem check_bind (context : RunContext σ) (f : Unit → Attempt Fault (Pipeline π × Session σ) α)
    (state : Pipeline π × Session σ) :
    (check context >>= f) state =
      match (context.check state.2).1 with
      | .ok () => f () state
      | .error fault => (.error fault, state) := by
  change Attempt.andThen (check context) f state = _
  simp only [Attempt.andThen, check, Attempt.onSecond, RunContext.check]
  cases context.cancellation.check state.2.signals <;> rfl

variable [Provider σ π]

theorem process_eq {context : RunContext σ} {mode : Mode} {batch : Batch} {pipeline : Pipeline π}
    {s : Session σ} (hc : (context.check s).1 = .ok ()) (hs : pipeline.supports mode = true)
    (hr : mode = .transliterate → batch.raw = []) :
    process context mode batch (pipeline, s) =
      onStages (Stage.processAll context mode 0 batch) (pipeline, s) := by
  have ha : admits mode batch (pipeline, s) = (.ok (), pipeline, s) := by
    by_cases hm : mode = .transliterate
    · simp [admits, hs, hr hm]
    · simp [admits, hs, hm]
  rw [process, check_bind, hc]
  exact Attempt.run_bind_ok ha

/-- A run that is not admitted leaves the stages alone. -/
theorem snd_process (context : RunContext σ) (mode : Mode) (batch : Batch)
    (state : Pipeline π × Session σ) :
    (process context mode batch state).2 = state ∨
      process context mode batch state = onStages (Stage.processAll context mode 0 batch) state := by
  rw [process, check_bind]
  split
  · cases ha : admits mode batch state with
    | mk result state' =>
      have hstate : state' = state := by
        simp only [admits] at ha
        split at ha
        · exact (Prod.mk.inj ha).2.symm
        · split at ha <;> exact (Prod.mk.inj ha).2.symm
      subst hstate
      cases result with
      | ok u => exact .inr (Attempt.run_bind_ok ha)
      | error fault =>
        have hb : (admits mode batch).run state' = (.error fault, state') := ha
        exact .inl (congrArg Prod.snd (Attempt.run_bind_error hb))
  · exact .inl rfl

end Pipeline

/-! ## Steps of operations -/

/-- The step that an operation takes with a stage. -/
inductive Act.Step [Provider σ π] : Act σ → Stage π × Session σ → Stage π × Session σ → Prop where
  | configure (options : Options) (state : Stage π × Session σ) :
    Step (.configure options) state (Stage.configure options state).2
  | start (context : RunContext σ) (state : Stage π × Session σ) :
    Step (.start context) state (Stage.ensureReady state).2
  | restart (context : RunContext σ) (fresh : Bool) (state : Stage π × Session σ) :
    Step (.restart context fresh) state (Stage.restart fresh state).2
  | process (context : RunContext σ) (mode : Mode) (batch reached : Batch) (done : UInt64)
    (stage : Stage π) (s : Session σ) :
    Step (.process context mode batch) (stage, s)
      (Stage.process (context.offset done) reached (stage, { s with stageTotal := 0 })).2
  | close (state : Stage π × Session σ) : Step .close state (Stage.release state).2

/-- Every operation takes its step with some of the stages in order, and with no other. -/
theorem Act.visits [Provider σ π] (act : Act σ) (state : Pipeline π × Session σ)
    (h : ∀ session, act ≠ .outside session) :
    Stage.Visits act.Step (state.1.stages, state.2)
      ((act.apply state).1.stages, (act.apply state).2) := by
  obtain ⟨pipeline, s⟩ := state
  cases act with
  | configure options => exact Stage.visits_forAll (fun state => .configure options state) _ s
  | start context =>
    rw [apply, Pipeline.start, Pipeline.check_bind]
    split
    · exact Stage.visits_forAll (fun state => .start context state) _ s
    · exact .refl _ s
  | restart context fresh =>
    rw [apply, Pipeline.restart, Pipeline.check_bind]
    split
    · exact Stage.visits_forAll (fun state => .restart context fresh state) _ s
    · exact .refl _ s
  | process context mode batch =>
    rw [apply]
    rcases Pipeline.snd_process context mode batch (pipeline, s) with h | h
    · rw [h]
      exact .refl _ s
    · rw [h]
      exact Stage.visits_processAll
        (fun done reached stage s => .process context mode batch reached done stage s) 0 batch _ s
  | close => exact Stage.visits_releaseAll (fun state => .close state) _ s
  | outside session => exact absurd rfl (h session)

/-- What no step of an operation breaks, the operation does not break. -/
theorem Act.forall_apply [Provider σ π] {P : Stage π → Prop} {act : Act σ}
    (hp : ∀ state state', act.Step state state' → P state.1 → P state'.1)
    (state : Pipeline π × Session σ) (h : ∀ stage ∈ state.1.stages, P stage) :
    ∀ stage ∈ (act.apply state).1.stages, P stage := by
  by_cases ha : ∃ session, act = .outside session
  · obtain ⟨session, rfl⟩ := ha
    exact h
  · exact (act.visits state fun session hs => ha ⟨session, hs⟩).forall hp h

/-- What no step of an operation changes, the operation does not change. -/
theorem Act.map_stages_apply [Provider σ π] {f : Stage π → α} {act : Act σ}
    (hf : ∀ state state', act.Step state state' → f state'.1 = f state.1)
    (state : Pipeline π × Session σ) : (act.apply state).1.stages.map f = state.1.stages.map f := by
  by_cases ha : ∃ session, act = .outside session
  · obtain ⟨session, rfl⟩ := ha
    rfl
  · exact (act.visits state fun session hs => ha ⟨session, hs⟩).map_eq hf

/-- What no operation breaks, no operations in a row break. -/
theorem Act.applyAll_induction [Provider σ π] {P : Pipeline π × Session σ → Prop}
    (step : ∀ act state, P state → P (Act.apply act state)) (acts : List (Act σ))
    {state : Pipeline π × Session σ} (h : P state) : P (Act.applyAll acts state) := by
  induction acts generalizing state with
  | nil => exact h
  | cons act acts ih => exact ih (step act state h)

/-! ## Properties of providers -/

namespace Provider

variable {ρ : Type} [Provider σ π] [Provider σ ρ] {P : π → Prop} {Q : ρ → Prop}

/-- No operation of a provider breaks `P`. -/
structure Keeps (P : π → Prop) : Prop where
  configure : ∀ options, Attempt.Maintains (fun state : π × Session σ => P state.1)
    (Provider.configure options)
  start : Attempt.Maintains (fun state : π × Session σ => P state.1) Provider.start
  restart : ∀ fresh, Attempt.Maintains (fun state : π × Session σ => P state.1)
    (Provider.restart fresh)
  process : ∀ context batch, Attempt.Maintains (fun state : π × Session σ => P state.1)
    (Provider.process context batch)
  release : Attempt.Maintains (fun state : π × Session σ => P state.1) Provider.release

omit [Provider σ π] [Provider σ ρ] in
theorem maintains_either {x : Attempt Fault (π × Session σ) α} {y : Attempt Fault (ρ × Session σ) α}
    (hx : Attempt.Maintains (fun state : π × Session σ => P state.1) x)
    (hy : Attempt.Maintains (fun state : ρ × Session σ => Q state.1) y) :
    Attempt.Maintains (fun state : (π ⊕ ρ) × Session σ => Sum.elim P Q state.1) (.either x y) := by
  rintro ⟨left | right, s⟩ h
  · exact hx (left, s) h
  · exact hy (right, s) h

/-- What is kept on either side is kept by whichever provider is there. -/
theorem Keeps.either (hP : Keeps P) (hQ : Keeps Q) : Keeps (Sum.elim P Q) where
  configure options := maintains_either (hP.configure options) (hQ.configure options)
  start := maintains_either hP.start hQ.start
  restart fresh := maintains_either (hP.restart fresh) (hQ.restart fresh)
  process context batch := maintains_either (hP.process context batch) (hQ.process context batch)
  release := maintains_either hP.release hQ.release

theorem keeps_true : Keeps fun _ : π => True where
  configure _ _ _ := trivial
  start _ _ := trivial
  restart _ _ _ := trivial
  process _ _ _ _ := trivial
  release _ _ := trivial

end Provider

theorem Stage.keeps_of_maintains [Provider σ π] {P : π → Prop} {operation : Operation}
    {after : Phase → Phase} {x : Attempt Fault (π × Session σ) α}
    (hx : Attempt.Maintains (fun state : π × Session σ => P state.1) x) :
    Keeps (fun stage => P stage.provider) (perform operation after x) := by
  intro stage s hs
  rw [(snd_perform operation after x stage s).1]
  exact hx (stage.provider, s) hs

/-- What no operation of a provider breaks, no step of an operation breaks. -/
theorem Act.Step.keeps [Provider σ π] {P : π → Prop} (hP : Provider.Keeps P) {act : Act σ}
    {state state' : Stage π × Session σ} (h : act.Step state state') (hs : P state.1.provider) :
    P state'.1.provider := by
  have hready : Stage.Keeps (fun stage => P stage.provider)
      (Stage.ensureReady : Attempt Fault (Stage π × Session σ) Unit) := by
    intro stage s hstage
    rw [Stage.ensureReady]
    split
    · exact hstage
    · exact Stage.keeps_of_maintains hP.start stage s hstage
  cases h with
  | configure options => exact Stage.keeps_of_maintains (hP.configure options) _ _ hs
  | start context => exact hready _ _ hs
  | restart context fresh => exact Stage.keeps_of_maintains (hP.restart fresh) _ _ hs
  | process context mode batch reached done stage s =>
    have hprocess : Stage.Keeps (fun stage => P stage.provider)
        (Stage.process (context.offset done) reached : Attempt Fault (Stage π × Session σ) Batch) :=
      hready.bind fun _ => Stage.keeps_of_maintains (hP.process (context.offset done) reached)
    exact hprocess stage { s with stageTotal := 0 } hs
  | close =>
    obtain ⟨stage, s⟩ := state
    rw [Stage.release]
    split
    · exact hs
    · exact Stage.keeps_of_maintains hP.release stage s hs

/-- What no operation of a provider breaks, no operations on a pipeline break. -/
theorem Act.keeps_applyAll [Provider σ π] {P : π → Prop} (hP : Provider.Keeps P)
    (acts : List (Act σ)) {state : Pipeline π × Session σ}
    (h : ∀ stage ∈ state.1.stages, P stage.provider) :
    ∀ stage ∈ (applyAll acts state).1.stages, P stage.provider :=
  applyAll_induction (P := fun state => ∀ stage ∈ state.1.stages, P stage.provider)
    (fun act state hs => act.forall_apply (fun _ _ hstep hstage => hstep.keeps hP hstage) state hs)
    acts h

end Hanyu
