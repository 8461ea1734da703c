import Hanyu.Engine
import Hanyu.Proofs.Lifecycle

/-!
# Closing

A pipeline is closed by releasing its stages. A provider may refuse to be released, now or later,
and a stage may be started again between two closings.

* `ReleasesOnce`: between a release and the next one, a provider is made ready again.
* `Stage.IsTracked`: the phase of a stage tells whether its provider has been released. No request
  breaks this (`Stage.IsTracked.turn`), so no provider is released twice.
* `Stage.Closes`, `Stage.Each`: what closing does with one stage, and with all of them in order.
* `Pipeline.IsClosing`: what closing does with a pipeline, and which failure it gives.
* `Engine.ClosesRun`: an engine closes a run however it has ended.
* `closing_is_complete`: all of this after any operations, for all pipelines and engines.
-/

namespace Hanyu

variable {σ π : Type}

/-! ## Released providers -/

/-- After these calls, the latest first, the provider is released: it has been released with
success, and not been started or restarted with success since. -/
def isShut : List ProviderCall → Bool
  | [] => false
  | call :: earlier => call.closes || (!call.opens && isShut earlier)

/-- A call that fails changes nothing about that. -/
@[simp] theorem isShut_cons_error (request : Request) (cause : Fault) (calls : List ProviderCall) :
    isShut (⟨request, .error cause⟩ :: calls) = isShut calls := by
  simp [isShut, ProviderCall.opens, ProviderCall.closes]

theorem isShut_append {later earlier : List ProviderCall} {call : ProviderCall}
    (hc : call.closes = true) (hl : ∀ other ∈ later, other.opens = false) :
    isShut (later ++ call :: earlier) = true := by
  induction later with
  | nil => simp [isShut, hc]
  | cons other later ih =>
    obtain ⟨ho, hl⟩ := List.forall_mem_cons.mp hl
    simp [isShut, ho, ih hl]

theorem isShut_eq_false {calls : List ProviderCall}
    (h : ∀ call ∈ calls, call.request ≠ .release) : isShut calls = false := by
  induction calls with
  | nil => rfl
  | cons call calls ih =>
    obtain ⟨hc, hcalls⟩ := List.forall_mem_cons.mp h
    simp [isShut, ProviderCall.closes, hc, ih hcalls]

/-- Calls, the latest first, in which a provider that has been released is made ready before it is
to be released again. -/
def ReleasesOnce (calls : List ProviderCall) : Prop :=
  ∀ later call between first earlier, calls = later ++ call :: (between ++ first :: earlier) →
    call.request = .release → first.closes = true → ∃ other ∈ between, other.opens = true

theorem releasesOnce_nil : ReleasesOnce [] := by
  intro later call between first earlier h
  simp at h

theorem ReleasesOnce.cons {calls : List ProviderCall} (h : ReleasesOnce calls) {call : ProviderCall}
    (hrelease : call.request = .release → isShut calls = false) : ReleasesOnce (call :: calls) := by
  intro later other between first earlier heq hr hc
  cases later with
  | nil =>
    obtain ⟨rfl, rfl⟩ := List.cons.inj heq
    by_cases hb : ∀ other ∈ between, other.opens = false
    · rw [isShut_append hc hb] at hrelease
      cases hrelease hr
    · simpa using hb
  | cons last later => exact h later other between first earlier (List.cons.inj heq).2 hr hc

namespace Stage

/-- The provider of a stage has not been released twice, and the stage is released when its provider
is. -/
structure IsTracked (stage : Stage (Watched π)) : Prop where
  released_iff : stage.phase = .released ↔ isShut stage.provider.calls = true
  once : ReleasesOnce stage.provider.calls

theorem isTracked_of_fresh {stage : Stage (Watched π)} (hp : stage.phase = .fresh)
    (hc : stage.provider.calls = []) : stage.IsTracked where
  released_iff := by simp [hp, hc, isShut]
  once := by rw [hc]; exact releasesOnce_nil

section Asking

variable {phase after : Phase} {request : Request} {calls : List ProviderCall}

/-- The phase keeps telling whether the provider is released. -/
theorem Asks.released_iff (h : Asks phase request after)
    (hshut : phase = .released ↔ isShut calls = true) :
    after = .released ↔ isShut (⟨request, .ok ()⟩ :: calls) = true := by
  cases h <;> simp_all [isShut, ProviderCall.opens, ProviderCall.closes]

theorem Asks.releasesOnce (h : Asks phase request after)
    (hshut : phase = .released ↔ isShut calls = true) (ho : ReleasesOnce calls)
    (ending : Except Fault Unit) : ReleasesOnce (⟨request, ending⟩ :: calls) := by
  refine ho.cons fun hr => ?_
  obtain rfl : request = .release := hr
  cases h with
  | release hne => simpa [hshut] using hne

end Asking

variable {requests : List Request}

/-- No request breaks this. -/
theorem IsTracked.turn {stage stage' : Stage (Watched π)} (h : stage.IsTracked)
    (ht : Turn requests stage stage') : stage'.IsTracked := by
  cases ht with
  | succeeded _ hasks hcalls =>
    refine ⟨?_, ?_⟩
    · rw [hcalls]
      exact hasks.released_iff h.released_iff
    · rw [hcalls]
      exact hasks.releasesOnce h.released_iff h.once _
  | failed _ hasks hcalls hphase =>
    refine ⟨?_, ?_⟩
    · rw [hphase, hcalls, isShut_cons_error, h.released_iff]
    · rw [hcalls]
      exact hasks.releasesOnce h.released_iff h.once _

/-- Requests other than a release are no release. -/
theorem forall_ne_release_turn (hr : .release ∉ requests) {stage stage' : Stage (Watched π)}
    (h : ∀ call ∈ stage.provider.calls, call.request ≠ .release)
    (ht : Turn requests stage stage') :
    ∀ call ∈ stage'.provider.calls, call.request ≠ .release := by
  cases ht with
  | succeeded hm _ hcalls =>
    rw [hcalls]
    exact List.forall_mem_cons.mpr ⟨fun he => hr (he ▸ hm), h⟩
  | failed hm _ hcalls _ =>
    rw [hcalls]
    exact List.forall_mem_cons.mpr ⟨fun he => hr (he ▸ hm), h⟩

/-! ## Stages that are closed -/

variable [Provider σ π]

/-- What closing does with a stage in a session. -/
inductive Closes : Stage (Watched π) × Session σ → Stage (Watched π) × Session σ → Prop where
  /-- A stage that is released is left alone. -/
  | passed {stage : Stage (Watched π)} {s : Session σ} (hp : stage.phase = .released) :
    Closes (stage, s) (stage, s)
  | released {stage stage' : Stage (Watched π)} {s t : Session σ} (hp : stage.phase ≠ .released)
    (hx : Provider.release (stage.provider.provider, s) = (.ok (), stage'.provider.provider, t))
    (hc : stage'.provider.calls = ⟨.release, .ok ()⟩ :: stage.provider.calls)
    (hp' : stage'.phase = .released) : Closes (stage, s) (stage', t)
  /-- A stage whose provider cannot be released stays in its phase. -/
  | refused {stage stage' : Stage (Watched π)} {s t : Session σ} {cause : Fault}
    (hp : stage.phase ≠ .released)
    (hx : Provider.release (stage.provider.provider, s) =
      (.error cause, stage'.provider.provider, t))
    (hc : stage'.provider.calls = ⟨.release, .error cause⟩ :: stage.provider.calls)
    (hp' : stage'.phase = stage.phase) : Closes (stage, s) (stage', t)

/-- Every stage in order takes a step of `X` in the session that the stages before it left. -/
inductive Each {ρ : Type} (X : Stage ρ × Session σ → Stage ρ × Session σ → Prop) :
    List (Stage ρ) × Session σ → List (Stage ρ) × Session σ → Prop where
  | nil (s : Session σ) : Each X ([], s) ([], s)
  | cons {stage stage' : Stage ρ} {stages stages' : List (Stage ρ)} {s t u : Session σ}
    (hx : X (stage, s) (stage', t)) (h : Each X (stages, t) (stages', u)) :
    Each X (stage :: stages, s) (stage' :: stages', u)

omit [Provider σ π] in
theorem Each.forall {ρ : Type} {X : Stage ρ × Session σ → Stage ρ × Session σ → Prop}
    {P Q : Stage ρ → Prop} (hx : ∀ state state', X state state' → P state.1 → Q state'.1)
    {a b : List (Stage ρ) × Session σ} (h : Each X a b) (ha : ∀ stage ∈ a.1, P stage) :
    ∀ stage ∈ b.1, Q stage := by
  induction h with
  | nil => simp
  | cons hstep _ ih =>
    obtain ⟨hstage, hrest⟩ := List.forall_mem_cons.mp ha
    exact List.forall_mem_cons.mpr ⟨hx _ _ hstep hstage, ih hrest⟩

/-- The provider of a stage has just refused to be released, and the fault tells where and why. -/
structure Refuses (stage : Stage (Watched π)) (fault : Fault) : Prop where
  phase : stage.phase ≠ .released
  exists_cause : ∃ cause, stage.provider.calls.head? = some ⟨.release, .error cause⟩ ∧
    fault = cause.inStage stage.profile.name .release

variable {stage stage' : Stage (Watched π)} {s t : Session σ} {fault : Fault}

theorem release_ok (h : release (stage, s) = (.ok (), stage', t)) :
    Closes (stage, s) (stage', t) ∧ stage'.phase = .released := by
  simp only [release] at h
  split at h
  · rename_i hp
    cases h
    exact ⟨.passed hp, hp⟩
  · rename_i hp
    obtain ⟨hx, hp'⟩ := perform_ok h
    exact ⟨.released hp (Watched.of_noting hx) (Watched.calls_noting hx) hp', hp'⟩

theorem release_error (h : release (stage, s) = (.error fault, stage', t)) :
    Closes (stage, s) (stage', t) ∧ stage'.Refuses fault := by
  simp only [release] at h
  split at h
  · cases h
  · rename_i hp
    obtain ⟨cause, hx, hp', hf⟩ := perform_error h
    have hcalls := Watched.calls_noting hx
    exact ⟨.refused hp (Watched.of_noting hx) hcalls hp',
      ⟨hp' ▸ hp, cause, congrArg List.head? hcalls, hf⟩⟩

theorem each_releaseAll (stages : List (Stage (Watched π))) (s : Session σ) :
    Each Closes (stages, s) (releaseAll stages s).2 := by
  induction stages generalizing s with
  | nil => exact .nil s
  | cons stage stages ih =>
    rw [releaseAll]
    split
    · rename_i stage' t h
      exact .cons (release_ok h).1 (ih t)
    · rename_i fault stage' t h
      exact .cons (release_error h).1 (ih t)

/-- Closing succeeds when every stage is released then. -/
theorem releaseAll_eq_ok_iff {stages : List (Stage (Watched π))} {s : Session σ} :
    (releaseAll stages s).1 = .ok () ↔
      ∀ stage ∈ (releaseAll stages s).2.1, stage.phase = .released := by
  induction stages generalizing s with
  | nil => simp [releaseAll]
  | cons stage stages ih =>
    rw [releaseAll]
    split
    · rename_i stage' t h
      have hp := (release_ok h).2
      simp [Outcome.cons, ih, hp]
    · rename_i fault stage' t h
      have hp := (release_error h).2.phase
      simp [hp]

/-- Closing fails with the fault of the first stage that is not released then. -/
theorem exists_refuses_of_releaseAll {stages : List (Stage (Watched π))}
    (h : (releaseAll stages s).1 = .error fault) :
    ∃ first stage later, (releaseAll stages s).2.1 = first ++ stage :: later ∧
      (∀ earlier ∈ first, earlier.phase = .released) ∧ stage.Refuses fault := by
  induction stages generalizing s with
  | nil => cases h
  | cons stage stages ih =>
    rw [releaseAll] at h ⊢
    split at h
    · rename_i stage' t hr
      have hp := (release_ok hr).2
      obtain ⟨first, refusing, later, heq, hfirst, hrefuses⟩ := ih h
      exact ⟨stage' :: first, refusing, later, congrArg (stage' :: ·) heq,
        List.forall_mem_cons.mpr ⟨hp, hfirst⟩, hrefuses⟩
    · rename_i fault' stage' t hr
      cases h
      exact ⟨[], stage', _, rfl, by simp, (release_error hr).2⟩

end Stage

/-! ## Pipelines that are closed -/

/-- What closing does with a pipeline, and how it ends. -/
structure Pipeline.IsClosing [Provider σ π] (before : Pipeline (Watched π) × Session σ)
    (outcome : Except Fault Unit × Pipeline (Watched π) × Session σ) : Prop where
  /-- Every stage that is not released is asked once, in order, also after a refusal; the others are
  left alone. -/
  each : Stage.Each Stage.Closes (before.1.stages, before.2) (outcome.2.1.stages, outcome.2.2)
  ok_iff : outcome.1 = .ok () ↔ ∀ stage ∈ outcome.2.1.stages, stage.phase = .released
  /-- The failure is that of the first stage that is not released then. -/
  error : ∀ fault, outcome.1 = .error fault →
    ∃ first stage later, outcome.2.1.stages = first ++ stage :: later ∧
      (∀ earlier ∈ first, earlier.phase = .released) ∧ stage.Refuses fault

theorem Pipeline.isClosing_close [Provider σ π] (state : Pipeline (Watched π) × Session σ) :
    IsClosing state (close state) where
  each := Stage.each_releaseAll _ _
  ok_iff := Stage.releaseAll_eq_ok_iff
  error _ h := Stage.exists_refuses_of_releaseAll h

/-! ## Pipelines that have just been opened -/

section Opening

variable [Provider σ π] {catalog : Catalog π} {settings : Settings} {language : Text}
  {pipeline : Pipeline π} {s t : Session σ}

/-- Options leave the phase of a stage alone. -/
theorem Stage.phase_configure (options : Options) (stage : Stage π) (s : Session σ) :
    (Stage.configure options (stage, s)).2.1.phase = stage.phase := by
  simp only [Stage.configure, Stage.perform]
  split <;> rfl

namespace Catalog

omit [Provider σ π] in
theorem phase_of_assemble {transliterator : Option Text}
    (h : catalog.assemble settings language transliterator = .ok pipeline) :
    ∀ stage ∈ pipeline.stages, stage.phase = .fresh := by
  obtain ⟨chain, providers, -, -, rfl⟩ := assemble_eq_ok h
  intro stage hs
  obtain ⟨provider, -, rfl⟩ := List.mem_map.mp hs
  rfl

theorem phase_of_configured {options : Options} {configured : Pipeline π}
    (h : Catalog.configured pipeline options s = (.ok configured, t))
    (hp : ∀ stage ∈ pipeline.stages, stage.phase = .fresh) :
    ∀ stage ∈ configured.stages, stage.phase = .fresh := by
  simp only [Catalog.configured] at h
  split at h
  · rename_i pipeline' t' hc
    cases h
    have happly : Act.apply (.configure options) (pipeline, s) = (configured, t) :=
      congrArg Prod.snd hc
    have hstep : ∀ state state' : Stage π × Session σ, (Act.configure options).Step state state' →
        state.1.phase = .fresh → state'.1.phase = .fresh := by
      intro state state' hstep hfresh
      cases hstep
      exact (Stage.phase_configure options state.1 state.2).trans hfresh
    have hfresh := Act.forall_apply (P := fun stage => stage.phase = .fresh) hstep (pipeline, s) hp
    rwa [happly] at hfresh
  · cases h

/-- Nothing has been done with the stages of a pipeline that has just been opened. -/
theorem phase_of_openPipeline {scheme : Option Text}
    (h : catalog.openPipeline settings language scheme s = (.ok pipeline, t)) :
    ∀ stage ∈ pipeline.stages, stage.phase = .fresh := by
  cases scheme with
  | none => exact phase_of_assemble (Prod.mk.inj h).1
  | some name =>
    obtain ⟨scheme, u, -, h₁⟩ := Attempt.bind_ok h
    obtain ⟨assembled, v, h₂, h₃⟩ := Attempt.bind_ok h₁
    exact phase_of_configured h₃ (phase_of_assemble (Prod.mk.inj h₂).1)

end Catalog

end Opening

/-! ## Engines -/

theorem Attempt.of_mapFailure_ok {ε ε' τ α : Type} {f : ε → ε'} {x : Attempt ε τ α} {s t : τ} {a : α}
    (h : x.mapFailure f s = (.ok a, t)) : x s = (.ok a, t) := by
  simp only [mapFailure] at h
  cases hx : x s with
  | mk result u =>
    rw [hx] at h
    cases result <;> cases h
    rfl

namespace Provider.IsView

variable {ρ : Type} [Provider σ ρ] [Provider σ π] {view : ρ → π}

theorem maxChunkLength_map (hv : IsView (σ := σ) view) (pipeline : Pipeline ρ) :
    (pipeline.map view).maxChunkLength = pipeline.maxChunkLength := by
  simp only [Pipeline.maxChunkLength, Pipeline.map, List.map_map, Function.comp_def, hv.profile_map]

theorem through_processText (hv : IsView (σ := σ) view) (context : RunContext σ) (mode : Mode)
    (text : Text) :
    Attempt.Through (Prod.map (Pipeline.map view) id) (Pipeline.processText context mode text)
      (Pipeline.processText context mode text :
        Attempt Fault (Pipeline π × Session σ) Batch) := by
  rintro ⟨pipeline, s⟩
  simp only [Pipeline.processText, Prod.map, id, hv.maxChunkLength_map]
  exact hv.through_process context mode _ (pipeline, s)

end Provider.IsView

/-- A new watch changes nothing. -/
theorem Pipeline.map_map_new (pipeline : Pipeline π) :
    (pipeline.map Watched.new).map Watched.provider = pipeline := by
  simp [map, Stage.map, Watched.new, Function.comp_def]

theorem Pipeline.discard_map [Provider σ π] (pipeline : Pipeline (Watched π)) (s : Session σ) :
    (pipeline.map Watched.provider).discard s = pipeline.discard s := by
  simp only [discard, map, List.foldl_map]
  rfl

namespace Engine

/-- How a run ends that is closed: its failure counts before that of the closing. -/
def ending (ran : Except Fault Batch) (closed : Except Fault Unit) : Except Failure Batch :=
  match ran, closed with
  | .error fault, _ => .error (.pipeline fault)
  | .ok _, .error fault => .error (.pipeline fault)
  | .ok batch, .ok () => .ok batch

variable [Provider σ π]

/-- What comes out of a run, given what the run and its closing have left. -/
structure ClosesRun (ran : Except Fault Batch × Pipeline (Watched π) × Session σ)
    (closed : Except Fault Unit × Pipeline (Watched π) × Session σ)
    (outcome : Except Failure Batch × Session σ) : Prop where
  /-- The pipeline is closed as the run has left it. -/
  closing : Pipeline.IsClosing ran.2 closed
  /-- The last call that a provider gets is its one release. -/
  last : ∀ stage ∈ closed.2.1.stages, ∃ ending earlier,
    stage.provider.calls = ⟨.release, ending⟩ :: earlier ∧
      ∀ call ∈ earlier, call.request ≠ .release
  outcome : outcome = (ending ran.1 closed.1, closed.2.1.discard closed.2.2)

/-- A run does not release anybody, so that the closing after it asks everybody. -/
theorem last_of_close {before : Pipeline (Watched π) × Session σ}
    (hnew : ∀ stage ∈ before.1.stages, stage.phase = .fresh ∧ stage.provider.calls = [])
    (context : RunContext σ) (mode : Mode) (batch : Batch) :
    ∀ stage ∈ (Pipeline.close (Pipeline.process context mode batch before).2).2.1.stages,
      ∃ ending earlier, stage.provider.calls = ⟨.release, ending⟩ :: earlier ∧
        ∀ call ∈ earlier, call.request ≠ .release := by
  have hran : ∀ stage ∈ (Pipeline.process context mode batch before).2.1.stages,
      stage.IsTracked ∧ ∀ call ∈ stage.provider.calls, call.request ≠ .release := by
    refine (Act.process context mode batch).forall_apply_of_turn (fun h ht => ?_) before ?_
    · exact ⟨h.1.turn ht, Stage.forall_ne_release_turn (by simp [Act.requests]) h.2 ht⟩
    · intro stage hs
      obtain ⟨hp, hc⟩ := hnew stage hs
      exact ⟨Stage.isTracked_of_fresh hp hc, by simp [hc]⟩
  refine (Stage.each_releaseAll _ _).forall (fun state state' hx hs => ?_) hran
  have hphase : state.1.phase ≠ .released := by
    rw [ne_eq, hs.1.released_iff, isShut_eq_false hs.2]
    simp
  cases hx with
  | passed hp => exact absurd hp hphase
  | released _ _ hc _ => exact ⟨_, _, hc, hs.2⟩
  | refused _ _ hc _ => exact ⟨_, _, hc, hs.2⟩

/-- The pipeline that is closed may be watched. -/
theorem runAndClose_eq (context : RunContext σ) (mode : Mode) (text : Text) (pipeline : Pipeline π)
    (s : Session σ) :
    let ran := Pipeline.processText context mode text (pipeline.map Watched.new, s)
    let closed := Pipeline.close ran.2
    (Pipeline.processText context mode text (pipeline, s)).1 = ran.1 ∧
      (runAndClose context mode text pipeline).mapFailure .pipeline s =
        (ending ran.1 closed.1, closed.2.1.discard closed.2.2) := by
  intro ran closed
  have hran : Pipeline.processText context mode text (pipeline, s) =
      (ran.1, ran.2.1.map Watched.provider, ran.2.2) := by
    have hview := Watched.isView.through_processText context mode text
      (pipeline.map Watched.new, s)
    rwa [Prod.map_apply, Pipeline.map_map_new] at hview
  have hclosed : Pipeline.close (ran.2.1.map Watched.provider, ran.2.2) =
      (closed.1, closed.2.1.map Watched.provider, closed.2.2) :=
    Attempt.Through.onStages Watched.isView.releaseAll_map ran.2
  refine ⟨congrArg Prod.fst hran, ?_⟩
  simp only [Attempt.mapFailure, runAndClose, hran, hclosed, Pipeline.discard_map]
  cases ran.1 with
  | error fault => rfl
  | ok batch => cases closed.1 <;> rfl

/-- A run of an engine that has opened a pipeline is closed. -/
theorem closesRun_transliterate {engine : Engine π} {language : Text} {scheme : Option Text}
    {session s : Session σ} {pipeline : Pipeline π}
    (ho : engine.openPipeline language scheme session = (.ok pipeline, s))
    (context : RunContext σ) (mode : Mode) (text : Text) :
    let ran := Pipeline.processText context mode text (pipeline.map Watched.new, s)
    ClosesRun ran (Pipeline.close ran.2)
      (engine.transliterate context language scheme mode text session) := by
  intro ran
  have hfresh := Catalog.phase_of_openPipeline (Attempt.of_mapFailure_ok ho)
  have hnew : ∀ stage ∈ (pipeline.map Watched.new).stages,
      stage.phase = .fresh ∧ stage.provider.calls = [] := by
    intro stage hs
    obtain ⟨plain, hm, rfl⟩ := List.mem_map.mp hs
    exact ⟨hfresh plain hm, rfl⟩
  constructor
  · exact Pipeline.isClosing_close _
  · exact last_of_close hnew context mode _
  · rw [transliterate]
    exact (Attempt.run_bind_ok ho).trans (runAndClose_eq context mode text pipeline s).2

end Engine

/-- **Closing is complete.** After any operations on a pipeline of any providers, however they have
answered, closing asks every stage once that is not released, in order and also after a refusal;
those that agree are released, and the failure is that of the first one that is not. Between two
releases of a provider it has been made ready again. An engine that has opened a pipeline closes it
however the run has ended, and the failure of the run counts before that of the closing. -/
theorem closing_is_complete [Provider σ π] :
    (∀ (name : Text) (limit : Nat) (providers : List π) (acts : List (Act σ)) (session : Session σ),
      let plain := Act.applyAll acts (Pipeline.ofProviders name limit providers, session)
      let watched := Act.applyAll acts
        (Pipeline.ofProviders name limit (providers.map Watched.new), session)
      plain = Prod.map (Pipeline.map Watched.provider) id watched ∧
        (Pipeline.close plain).1 = (Pipeline.close watched).1 ∧
        Pipeline.IsClosing watched (Pipeline.close watched) ∧
        ∀ stage ∈ watched.1.stages, ReleasesOnce stage.provider.calls) ∧
      ∀ (engine : Engine π) (context : RunContext σ) (language : Text) (scheme : Option Text)
        (mode : Mode) (text : Text) (session : Session σ),
        match engine.openPipeline language scheme session with
        | (.error failure, s) =>
          engine.transliterate context language scheme mode text session = (.error failure, s)
        | (.ok pipeline, s) =>
          let ran := Pipeline.processText context mode text (pipeline.map Watched.new, s)
          (Pipeline.processText context mode text (pipeline, s)).1 = ran.1 ∧
            Engine.ClosesRun ran (Pipeline.close ran.2)
              (engine.transliterate context language scheme mode text session) := by
  constructor
  · intro name limit providers acts session plain watched
    have hplain : plain = Prod.map (Pipeline.map Watched.provider) id watched := by
      rw [← Watched.isView.applyAll_map acts, Prod.map_apply, Pipeline.map_ofProviders_new]
      rfl
    have htracked : ∀ stage ∈ watched.1.stages, stage.IsTracked := by
      refine Act.applyAll_induction (P := fun state => ∀ stage ∈ state.1.stages, stage.IsTracked)
        (fun act state h => act.forall_apply_of_turn (fun h ht => h.turn ht) state h) acts ?_
      intro stage hm
      obtain ⟨watch, hw, rfl⟩ := List.mem_map.mp hm
      obtain ⟨provider, -, rfl⟩ := List.mem_map.mp hw
      exact Stage.isTracked_of_fresh rfl rfl
    refine ⟨hplain, ?_, Pipeline.isClosing_close _, fun stage hs => (htracked stage hs).once⟩
    rw [hplain]
    exact congrArg Prod.fst (Attempt.Through.onStages Watched.isView.releaseAll_map watched)
  · intro engine context language scheme mode text session
    split
    · rename_i ho
      exact Attempt.run_bind_error ho
    · rename_i pipeline s ho
      exact ⟨(Engine.runAndClose_eq context mode text pipeline s).1,
        Engine.closesRun_transliterate ho context mode text⟩

/-- A provider that can only be released after some refusals. -/
structure Reluctant where
  name : Text
  refusals : Nat

instance : Provider Unit Reluctant where
  profile provider := ⟨provider.name, .tokenizer, [], 0⟩
  configure _ := .succeed ()
  start := .succeed ()
  restart _ := .succeed ()
  process _ batch := .succeed batch
  release := fun (provider, s) =>
    match provider.refusals with
    | 0 => (.ok (), provider, s)
    | n + 1 => (.error (.cancelled .requested), { provider with refusals := n }, s)
  discard _ s := s

/-- The first of three providers refuses once and the last one twice, until a third closing has
released everybody. -/
example :
    let refusal := (Fault.cancelled .requested).inStage
    let start := (Pipeline.ofProviders [] 0
      (([⟨['a'], 1⟩, ⟨['b'], 0⟩, ⟨['c'], 2⟩] : List Reluctant).map Watched.new), Session.start 0 ())
    let first := Pipeline.close start
    let second := Pipeline.close first.2
    let third := Pipeline.close second.2
    first.1 = .error (refusal ['a'] .release) ∧ second.1 = .error (refusal ['c'] .release) ∧
      third.1 = .ok () ∧
        third.2.1.stages.map (fun stage => stage.provider.calls.map ProviderCall.closes) =
          [[true, false], [true], [true, false, false]] := by
  decide

end Hanyu
