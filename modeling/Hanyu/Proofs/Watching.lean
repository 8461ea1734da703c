import Hanyu.Proofs.Operations

/-!
# Watched providers

A provider can be watched: every call that it gets is written down together with its ending.
Watching changes nothing, so what the books of watched providers say about a pipeline is true of
the pipeline without them.

* `Attempt.Through`: an attempt does the same in a view of the states.
* `Provider.IsView`: a view of providers through which all operations are the same ones. Then so are
  the operations of stages (`Provider.IsView.through_perform`), of lists of stages and of pipelines
  (`Provider.IsView.apply_map`, `Provider.IsView.applyAll_map`).
* `Watched.isView`: who does not look into the books does not see that providers are watched.
-/

namespace Hanyu

variable {σ π ρ α β : Type}

/-! ## Views of states -/

section Through

variable {ε τ : Type} {view : σ → τ}

/-- In the view of the states, the one attempt is the other. -/
def Attempt.Through (view : σ → τ) (x : Attempt ε σ α) (y : Attempt ε τ α) : Prop :=
  ∀ s, y (view s) = ((x s).1, view (x s).2)

theorem Attempt.Through.bind {x : Attempt ε σ α} {y : Attempt ε τ α} {f : α → Attempt ε σ β}
    {g : α → Attempt ε τ β} (hx : Through view x y) (hf : ∀ a, Through view (f a) (g a)) :
    Through view (x >>= f) (y >>= g) := by
  intro s
  change andThen y g (view s) = ((andThen x f s).1, view (andThen x f s).2)
  rw [andThen, andThen, hx s]
  cases x s with
  | mk result t =>
    cases result with
    | ok a => exact hf a t
    | error e => rfl

end Through

/-! ## Views of providers -/

/-- The stage with another provider. -/
def Stage.map (view : ρ → π) (stage : Stage ρ) : Stage π := ⟨view stage.provider, stage.phase⟩

/-- The pipeline with other providers. -/
def Pipeline.map (view : ρ → π) (pipeline : Pipeline ρ) : Pipeline π :=
  ⟨pipeline.name, pipeline.chunkLimit, pipeline.stages.map (.map view)⟩

/-- Through a view of providers all operations are the same ones. -/
structure Provider.IsView [Provider σ ρ] [Provider σ π] (view : ρ → π) : Prop where
  profile : ∀ provider, Provider.profile (view provider) = Provider.profile provider
  configure : ∀ options, Attempt.Through (Prod.map view id) (Provider.configure (σ := σ) options)
    (Provider.configure options)
  start : Attempt.Through (Prod.map view id) (Provider.start (σ := σ)) Provider.start
  restart : ∀ fresh, Attempt.Through (Prod.map view id) (Provider.restart (σ := σ) fresh)
    (Provider.restart fresh)
  process : ∀ context batch, Attempt.Through (Prod.map view id)
    (Provider.process (σ := σ) context batch) (Provider.process context batch)
  release : Attempt.Through (Prod.map view id) (Provider.release (σ := σ)) Provider.release

namespace Provider.IsView

variable [Provider σ ρ] [Provider σ π] {view : ρ → π}

theorem profile_map (hv : IsView (σ := σ) view) (stage : Stage ρ) :
    (stage.map view).profile = stage.profile :=
  hv.profile stage.provider

theorem through_perform (hv : IsView (σ := σ) view) (operation : Operation) (after : Phase → Phase)
    {x : Attempt Fault (ρ × Session σ) α} {y : Attempt Fault (π × Session σ) α}
    (h : Attempt.Through (Prod.map view id) x y) :
    Attempt.Through (Prod.map (Stage.map view) id) (Stage.perform operation after x)
      (Stage.perform operation after y) := by
  rintro ⟨stage, s⟩
  have hx : y (view stage.provider, s) = _ := h (stage.provider, s)
  simp only [Prod.map, Stage.map, id, Stage.perform, hx]
  cases x (stage.provider, s) with
  | mk result left =>
    cases result with
    | ok a => rfl
    | error fault => simp only [hv.profile]

theorem through_ensureReady (hv : IsView (σ := σ) view) :
    Attempt.Through (Prod.map (Stage.map view) id) Stage.ensureReady
      (Stage.ensureReady : Attempt Fault (Stage π × Session σ) Unit) := by
  rintro ⟨stage, s⟩
  have hstart := hv.through_perform .start (fun _ => .ready) hv.start (stage, s)
  simp only [Prod.map, Stage.ensureReady, id] at hstart ⊢
  by_cases hp : stage.phase = .ready
  · rw [if_pos hp, if_pos (show (stage.map view).phase = .ready from hp)]
  · rw [if_neg hp, if_neg (show (stage.map view).phase ≠ .ready from hp), hstart]

theorem through_stage_release (hv : IsView (σ := σ) view) :
    Attempt.Through (Prod.map (Stage.map view) id) Stage.release
      (Stage.release : Attempt Fault (Stage π × Session σ) Unit) := by
  rintro ⟨stage, s⟩
  have hrelease := hv.through_perform .release (fun _ => .released) hv.release (stage, s)
  simp only [Prod.map, Stage.release, id] at hrelease ⊢
  by_cases hp : stage.phase = .released
  · rw [if_pos hp, if_pos (show (stage.map view).phase = .released from hp)]
  · rw [if_neg hp, if_neg (show (stage.map view).phase ≠ .released from hp), hrelease]

theorem through_stage_process (hv : IsView (σ := σ) view) (context : RunContext σ) (batch : Batch) :
    Attempt.Through (Prod.map (Stage.map view) id) (Stage.process context batch)
      (Stage.process context batch : Attempt Fault (Stage π × Session σ) Batch) :=
  hv.through_ensureReady.bind fun _ => hv.through_perform .process id (hv.process context batch)

end Provider.IsView

/-! ## Views of lists of stages and of pipelines -/

/-- What stages leave behind, with other providers. -/
def Stage.Outcome.map (view : ρ → π) (outcome : Stage.Outcome σ ρ α) : Stage.Outcome σ π α :=
  (outcome.1, outcome.2.1.map (.map view), outcome.2.2)

theorem Stage.forAll_map {view : ρ → π} {x : Attempt Fault (Stage ρ × Session σ) Unit}
    {y : Attempt Fault (Stage π × Session σ) Unit}
    (h : Attempt.Through (Prod.map (Stage.map view) id) x y) (stages : List (Stage ρ))
    (s : Session σ) :
    forAll y (stages.map (.map view)) s = (forAll x stages s).map view := by
  induction stages generalizing s with
  | nil => rfl
  | cons stage stages ih =>
    have hx : y (stage.map view, s) = _ := h (stage, s)
    rw [List.map_cons, forAll, forAll, hx]
    cases x (stage, s) with
    | mk result left =>
      cases result with
      | ok a =>
        simp only [Prod.map, id, ih]
        rfl
      | error fault => rfl

theorem Attempt.Through.onStages {view : ρ → π}
    {x : List (Stage ρ) → Session σ → Stage.Outcome σ ρ α}
    {y : List (Stage π) → Session σ → Stage.Outcome σ π α}
    (h : ∀ stages s, y (stages.map (.map view)) s = (x stages s).map view) :
    Through (Prod.map (Pipeline.map view) id) (Pipeline.onStages x) (Pipeline.onStages y) := by
  rintro ⟨pipeline, s⟩
  have hx := h pipeline.stages s
  simp only [Pipeline.onStages, Prod.map, Pipeline.map, id, hx]
  rfl

namespace Provider.IsView

variable [Provider σ ρ] [Provider σ π] {view : ρ → π}

theorem releaseAll_map (hv : IsView (σ := σ) view) (stages : List (Stage ρ)) (s : Session σ) :
    Stage.releaseAll (stages.map (.map view)) s = (Stage.releaseAll stages s).map view := by
  induction stages generalizing s with
  | nil => rfl
  | cons stage stages ih =>
    have hx : Stage.release (stage.map view, s) = _ := hv.through_stage_release (stage, s)
    rw [List.map_cons, Stage.releaseAll, Stage.releaseAll, hx]
    cases Stage.release (stage, s) with
    | mk result left =>
      cases result with
      | ok a =>
        simp only [Prod.map, id, ih]
        rfl
      | error fault =>
        simp only [Prod.map, id, ih]
        rfl

theorem processAll_map (hv : IsView (σ := σ) view) (context : RunContext σ) (mode : Mode)
    (done : UInt64) (batch : Batch) (stages : List (Stage ρ)) (s : Session σ) :
    Stage.processAll context mode done batch (stages.map (.map view)) s =
      (Stage.processAll context mode done batch stages s).map view := by
  induction stages generalizing done batch s with
  | nil => rfl
  | cons stage stages ih =>
    have hx : Stage.process (context.offset done) batch
        (stage.map view, { s with stageTotal := 0 }) = _ :=
      hv.through_stage_process (context.offset done) batch (stage, { s with stageTotal := 0 })
    rw [List.map_cons, Stage.processAll, Stage.processAll, hv.profile_map, hx]
    split
    · cases Stage.process (context.offset done) batch (stage, { s with stageTotal := 0 }) with
      | mk result left =>
        cases result with
        | ok out =>
          simp only [Prod.map, id, ih]
          rfl
        | error fault => rfl
    · rw [ih]
      rfl

theorem hasKind_map (hv : IsView (σ := σ) view) (pipeline : Pipeline ρ) (kind : Kind) :
    (pipeline.map view).hasKind kind = pipeline.hasKind kind := by
  simp only [Pipeline.hasKind, Pipeline.map, List.any_map, Function.comp_def, hv.profile_map]

theorem supports_map (hv : IsView (σ := σ) view) (pipeline : Pipeline ρ) (mode : Mode) :
    (pipeline.map view).supports mode = pipeline.supports mode := by
  cases mode <;> simp only [Pipeline.supports, hv.hasKind_map]

theorem through_admits (hv : IsView (σ := σ) view) (mode : Mode) (batch : Batch) :
    Attempt.Through (Prod.map (Pipeline.map view) id) (Pipeline.admits mode batch)
      (Pipeline.admits mode batch : Attempt Fault (Pipeline π × Session σ) Unit) := by
  rintro ⟨pipeline, s⟩
  simp only [Prod.map, Pipeline.admits, hv.supports_map]
  split
  · rfl
  · split <;> rfl

omit [Provider σ ρ] [Provider σ π] in
theorem through_check (context : RunContext σ) :
    Attempt.Through (Prod.map (Pipeline.map view) id) (Pipeline.check context)
      (Pipeline.check context : Attempt Fault (Pipeline π × Session σ) Unit) :=
  fun _ => rfl

theorem through_process (hv : IsView (σ := σ) view) (context : RunContext σ) (mode : Mode)
    (batch : Batch) :
    Attempt.Through (Prod.map (Pipeline.map view) id) (Pipeline.process context mode batch)
      (Pipeline.process context mode batch : Attempt Fault (Pipeline π × Session σ) Batch) :=
  (through_check context).bind fun _ => (hv.through_admits mode batch).bind fun _ =>
    .onStages fun stages s => hv.processAll_map context mode 0 batch stages s

/-- Through a view of the providers, an operation on a pipeline is the same one. -/
theorem apply_map (hv : IsView (σ := σ) view) (act : Act σ) (state : Pipeline ρ × Session σ) :
    act.apply (Prod.map (Pipeline.map view) id state) =
      Prod.map (Pipeline.map view) id (act.apply state) := by
  have key : ∀ {α : Type} {x : Attempt Fault (Pipeline ρ × Session σ) α}
      {y : Attempt Fault (Pipeline π × Session σ) α},
      Attempt.Through (Prod.map (Pipeline.map view) id) x y →
        (y (Prod.map (Pipeline.map view) id state)).2 =
          Prod.map (Pipeline.map view) id (x state).2 :=
    fun h => congrArg Prod.snd (h state)
  cases act with
  | configure options =>
    have hstage := hv.through_perform .configure id (hv.configure options)
    exact key (.onStages (Stage.forAll_map hstage))
  | start context =>
    have hstages := Stage.forAll_map hv.through_ensureReady
    exact key ((through_check context).bind fun _ => .onStages hstages)
  | restart context fresh =>
    exact key ((through_check context).bind fun _ =>
      .onStages (Stage.forAll_map
        (hv.through_perform .start (fun _ => .ready) (hv.restart fresh))))
  | process context mode batch => exact key (hv.through_process context mode batch)
  | close => exact key (.onStages hv.releaseAll_map)
  | outside session => rfl

theorem applyAll_map (hv : IsView (σ := σ) view) (acts : List (Act σ))
    (state : Pipeline ρ × Session σ) :
    Act.applyAll acts (Prod.map (Pipeline.map view) id state) =
      Prod.map (Pipeline.map view) id (Act.applyAll acts state) := by
  induction acts generalizing state with
  | nil => rfl
  | cons act acts ih =>
    simp only [Act.applyAll, List.foldl_cons, hv.apply_map] at ih ⊢
    exact ih (act.apply state)

end Provider.IsView

/-! ## Watching -/

/-- What a provider can be asked to do. -/
inductive Request where
  | configure
  | start
  | restart
  | process
  | release
deriving DecidableEq, Repr

/-- The operation that a stage performs by a request. -/
def Request.operation : Request → Operation
  | configure => .configure
  | start => .start
  | restart => .start
  | process => .process
  | release => .release

/-- A call that a provider got, and how it ended. -/
structure ProviderCall where
  request : Request
  ending : Except Fault Unit
deriving DecidableEq

/-- A provider that is watched. -/
structure Watched (π : Type) where
  provider : π
  /-- The calls that it got, the latest first. -/
  calls : List ProviderCall

namespace Watched

/-- A provider that is watched from now on. -/
def new (provider : π) : Watched π := ⟨provider, []⟩

/-- An attempt of a provider which is written down when it has ended. -/
def noting (request : Request) (x : Attempt Fault (π × Session σ) α) :
    Attempt Fault (Watched π × Session σ) α := fun (watched, s) =>
  let (result, provider, s) := x (watched.provider, s)
  (result, ⟨provider, ⟨request, result.map fun _ => ()⟩ :: watched.calls⟩, s)

instance [Provider σ π] : Provider σ (Watched π) where
  profile watched := Provider.profile watched.provider
  configure options := noting .configure (Provider.configure options)
  start := noting .start Provider.start
  restart fresh := noting .restart (Provider.restart fresh)
  process context batch := noting .process (Provider.process context batch)
  release := noting .release Provider.release
  discard watched := Provider.discard watched.provider

theorem through_noting (request : Request) (x : Attempt Fault (π × Session σ) α) :
    Attempt.Through (Prod.map Watched.provider id) (noting request x) x :=
  fun _ => rfl

/-- Watching a provider changes none of its operations. -/
theorem isView [Provider σ π] : Provider.IsView (σ := σ) (Watched.provider (π := π)) where
  profile _ := rfl
  configure _ := through_noting _ _
  start := through_noting _ _
  restart _ := through_noting _ _
  process _ _ := through_noting _ _
  release := through_noting _ _

/-- What is written down has happened. -/
theorem of_noting {request : Request} {x : Attempt Fault (π × Session σ) α}
    {watched watched' : Watched π} {s t : Session σ} {result : Except Fault α}
    (h : noting request x (watched, s) = (result, watched', t)) :
    x (watched.provider, s) = (result, watched'.provider, t) := by
  cases h
  rfl

theorem calls_noting {request : Request} {x : Attempt Fault (π × Session σ) α}
    {watched watched' : Watched π} {s t : Session σ} {result : Except Fault α}
    (h : noting request x (watched, s) = (result, watched', t)) :
    watched'.calls = ⟨request, result.map fun _ => ()⟩ :: watched.calls := by
  cases h
  rfl

end Watched

/-- A new pipeline of watched providers is the pipeline of the providers. -/
theorem Pipeline.map_ofProviders_new (name : Text) (limit : Nat) (providers : List π) :
    (ofProviders name limit (providers.map Watched.new)).map Watched.provider =
      ofProviders name limit providers := by
  simp only [ofProviders, map, List.map_map]
  rfl

end Hanyu
