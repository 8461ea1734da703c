import Hanyu.Proofs.Failure
import Hanyu.Proofs.Operations

/-!
# Ready stages

A pipeline keeps the phase of a stage, and a tokenizer keeps its engine, each for itself.

* `Chinese.Tokenizer.HoldsLoaded`: a tokenizer holds no engine but one that was loaded.
* `Chinese.Tokenizer.IsSound`: and it holds one when it is ready.
* `Chinese.Tokenizer.IsStable`: what neither loading nor dropping an engine breaks. No operation
  breaks it, but for a forced restart, which drops engines in any phase (`Act.ofTokenizer_apply`).
-/

namespace Hanyu

variable {σ ε ρ α γ : Type}

/-! ## Tokenizers and their engines -/

namespace Chinese

/-- Makes an engine and loads it. -/
def Segmenter.opened (segmenter : Segmenter σ ε) (session : Session σ) :
    Except Fault ε × Session σ :=
  let (engine, session) := session.call segmenter.create
  session.call (segmenter.load engine)

/-- The engine was made and loaded at some time. -/
def Segmenter.Loads (segmenter : Segmenter σ ε) (engine : ε) : Prop :=
  ∃ session, (segmenter.opened session).1 = .ok engine

/-- Making, loading and using engines does not touch what is seen of the notes. -/
structure Segmenter.IsQuiet (seen : σ → γ) (segmenter : Segmenter σ ε) : Prop where
  create : segmenter.create.IsQuiet seen
  load : ∀ engine, (segmenter.load engine).IsQuiet seen
  segment : ∀ engine chunk, (segmenter.segment engine chunk).IsQuiet seen

namespace Tokenizer

/-- What the tokenizer holds is an engine that was loaded. -/
def HoldsLoaded (tokenizer : Tokenizer σ ε) : Prop :=
  ∀ engine, tokenizer.engine = some engine → tokenizer.segmenter.Loads engine

/-- A tokenizer in a phase of its stage. -/
structure IsSound (tokenizer : Tokenizer σ ε) (phase : Phase) : Prop where
  loaded : tokenizer.HoldsLoaded
  /-- When it is ready, it holds one. -/
  holds : phase = .ready → tokenizer.engine.isSome = true

theorem holdsLoaded_of_none {tokenizer : Tokenizer σ ε} (he : tokenizer.engine = none) :
    tokenizer.HoldsLoaded := by
  intro engine h
  rw [he] at h
  cases h

theorem isSound_of_none {tokenizer : Tokenizer σ ε} {phase : Phase} (he : tokenizer.engine = none)
    (hp : phase ≠ .ready) : tokenizer.IsSound phase where
  loaded := holdsLoaded_of_none he
  holds h := absurd h hp

theorem loadEngine_of_none {tokenizer : Tokenizer σ ε} (he : tokenizer.engine = none)
    (s : Session σ) :
    loadEngine (tokenizer, s) =
      match tokenizer.segmenter.opened s with
      | (.ok engine, t) => (.ok (), { tokenizer with engine := some engine }, t)
      | (.error fault, t) => (.error fault, tokenizer, t) := by
  rw [loadEngine, he]
  rfl

/-- Nothing of a tokenizer but its engine changes when it is started. -/
theorem loadEngine_fst (tokenizer : Tokenizer σ ε) (s : Session σ) :
    ∃ engine, (loadEngine (tokenizer, s)).2.1 = { tokenizer with engine } := by
  cases he : tokenizer.engine with
  | some engine =>
    rw [loadEngine, he]
    exact ⟨tokenizer.engine, rfl⟩
  | none =>
    rw [loadEngine_of_none he]
    split
    · exact ⟨_, rfl⟩
    · exact ⟨tokenizer.engine, rfl⟩

theorem engine_dropEngine (tokenizer : Tokenizer σ ε) (s : Session σ) :
    (tokenizer.dropEngine s).1.engine = none := by
  rw [dropEngine_fst]

/-- After starting a tokenizer holds an engine: the one it had, or one that was loaded. -/
theorem loadEngine_ok {tokenizer after : Tokenizer σ ε} {s t : Session σ}
    (h : loadEngine (tokenizer, s) = (.ok (), after, t)) :
    after.segmenter = tokenizer.segmenter ∧ ∃ engine, after.engine = some engine ∧
      (tokenizer.engine = some engine ∨ after.segmenter.Loads engine) := by
  cases he : tokenizer.engine with
  | some engine =>
    rw [loadEngine, he] at h
    cases h
    exact ⟨rfl, engine, he, .inl rfl⟩
  | none =>
    rw [loadEngine_of_none he] at h
    split at h
    · rename_i engine u ho
      cases h
      exact ⟨rfl, engine, rfl, .inr ⟨s, by rw [ho]⟩⟩
    · cases h

theorem isSome_of_loadEngine_ok {before : Tokenizer σ ε × Session σ} {after : Tokenizer σ ε}
    {t : Session σ} (h : loadEngine before = (.ok (), after, t)) : after.engine.isSome = true := by
  obtain ⟨-, engine, he, -⟩ := loadEngine_ok h
  rw [he]
  rfl

/-- A tokenizer that cannot be started has no engine and gets none: loading was refused. -/
theorem loadEngine_error {tokenizer after : Tokenizer σ ε} {s t : Session σ} {fault : Fault}
    (h : loadEngine (tokenizer, s) = (.error fault, after, t)) :
    after = tokenizer ∧ tokenizer.engine = none ∧
      ∃ engine notes, (tokenizer.segmenter.load engine notes).answer = .error fault := by
  cases he : tokenizer.engine with
  | some engine =>
    rw [loadEngine, he] at h
    cases h
  | none =>
    rw [loadEngine_of_none he] at h
    split at h
    · cases h
    · rename_i fault' u ho
      cases h
      exact ⟨rfl, rfl, _, _, (Prod.mk.inj ho).1⟩

/-- A restart is a start, after the engine has been dropped when it is forced. -/
theorem restart_eq (fresh : Bool) (tokenizer : Tokenizer σ ε) (s : Session σ) :
    (Provider.restart fresh : Attempt Fault (Tokenizer σ ε × Session σ) Unit) (tokenizer, s) =
      loadEngine (if fresh then tokenizer.dropEngine s else (tokenizer, s)) := by
  cases fresh <;> rfl

theorem holdsLoaded_of_loadEngine_ok {tokenizer after : Tokenizer σ ε}
    (hl : tokenizer.HoldsLoaded) {s t : Session σ}
    (h : loadEngine (tokenizer, s) = (.ok (), after, t)) : after.HoldsLoaded := by
  obtain ⟨hseg, engine, he, hor⟩ := loadEngine_ok h
  intro engine' he'
  rw [he] at he'
  cases he'
  rcases hor with hold | hnew
  · rw [hseg]
    exact hl engine hold
  · exact hnew

theorem isSound_of_loadEngine_ok {tokenizer after : Tokenizer σ ε} {phase : Phase}
    (hs : tokenizer.IsSound phase) {s t : Session σ}
    (h : loadEngine (tokenizer, s) = (.ok (), after, t)) : after.IsSound .ready where
  loaded := holdsLoaded_of_loadEngine_ok hs.loaded h
  holds _ := isSome_of_loadEngine_ok h

/-- `P` is not broken when an engine is loaded and the phase becomes ready, nor when it is dropped
and the phase becomes released. -/
structure IsStable (P : Tokenizer σ ε → Phase → Prop) : Prop where
  load : ∀ tokenizer after phase s t, P tokenizer phase →
    loadEngine (tokenizer, s) = (.ok (), after, t) → P after .ready
  drop : ∀ tokenizer phase s, P tokenizer phase → P (tokenizer.dropEngine s).1 .released

theorem isStable_holdsLoaded :
    IsStable fun (tokenizer : Tokenizer σ ε) _ => tokenizer.HoldsLoaded where
  load _ _ _ _ _ hl h := holdsLoaded_of_loadEngine_ok hl h
  drop tokenizer _ s _ := holdsLoaded_of_none (engine_dropEngine tokenizer s)

theorem isStable_isSound : IsStable (IsSound : Tokenizer σ ε → Phase → Prop) where
  load _ _ _ _ _ hs h := isSound_of_loadEngine_ok hs h
  drop tokenizer _ s _ := isSound_of_none (engine_dropEngine tokenizer s) (by decide)

end Tokenizer

end Chinese

/-! ## Stages -/

namespace Stage

/-- A stage with a sound tokenizer, or with no tokenizer. -/
def IsSound (stage : Stage (Chinese.Tokenizer σ ε ⊕ ρ)) : Prop :=
  ∀ tokenizer, stage.provider = .inl tokenizer → tokenizer.IsSound stage.phase

variable [Provider σ ρ]

/-- A property of the tokenizer in a stage, if there is one, and of the phase of the stage. -/
def OfTokenizer (P : Chinese.Tokenizer σ ε → Phase → Prop)
    (stage : Stage (Chinese.Tokenizer σ ε ⊕ ρ)) : Prop :=
  ∀ tokenizer, stage.provider = .inl tokenizer → P tokenizer stage.phase

theorem ofTokenizer_of_perform_ok {P : Chinese.Tokenizer σ ε → Phase → Prop} {operation : Operation}
    {after : Phase → Phase} {x : Attempt Fault (Chinese.Tokenizer σ ε × Session σ) α}
    {y : Attempt Fault (ρ × Session σ) α} {stage stage' : Stage (Chinese.Tokenizer σ ε ⊕ ρ)}
    {s t : Session σ} {a : α}
    (hx : ∀ tokenizer tokenizer', P tokenizer stage.phase →
      x (tokenizer, s) = (.ok a, tokenizer', t) → P tokenizer' (after stage.phase))
    (hs : stage.OfTokenizer P)
    (h : perform operation after (.either x y) (stage, s) = (.ok a, stage', t)) :
    stage'.OfTokenizer P := by
  intro tokenizer' ht
  obtain ⟨hp, ha⟩ := perform_ok h
  rw [ht] at hp
  obtain ⟨tokenizer, hb, hp'⟩ := Attempt.either_eq_inl hp
  rw [ha]
  exact hx tokenizer tokenizer' (hs tokenizer hb) hp'

theorem ofTokenizer_of_perform_error {P : Chinese.Tokenizer σ ε → Phase → Prop}
    {operation : Operation} {after : Phase → Phase}
    {x : Attempt Fault (Chinese.Tokenizer σ ε × Session σ) α}
    {y : Attempt Fault (ρ × Session σ) α} {stage stage' : Stage (Chinese.Tokenizer σ ε ⊕ ρ)}
    {s t : Session σ} {fault : Fault}
    (hx : ∀ tokenizer tokenizer' cause, P tokenizer stage.phase →
      x (tokenizer, s) = (.error cause, tokenizer', t) → P tokenizer' stage.phase)
    (hs : stage.OfTokenizer P)
    (h : perform operation after (.either x y) (stage, s) = (.error fault, stage', t)) :
    stage'.OfTokenizer P := by
  intro tokenizer' ht
  obtain ⟨cause, hp, ha, -⟩ := perform_error h
  rw [ht] at hp
  obtain ⟨tokenizer, hb, hp'⟩ := Attempt.either_eq_inl hp
  rw [ha]
  exact hx tokenizer tokenizer' cause (hs tokenizer hb) hp'

/-- What an operation on tokenizers does not break, it does not break in a stage. -/
theorem keeps_perform {P : Chinese.Tokenizer σ ε → Phase → Prop} {operation : Operation}
    {after : Phase → Phase} {x : Attempt Fault (Chinese.Tokenizer σ ε × Session σ) α}
    {y : Attempt Fault (ρ × Session σ) α}
    (ok : ∀ tokenizer tokenizer' phase s t a, P tokenizer phase →
      x (tokenizer, s) = (.ok a, tokenizer', t) → P tokenizer' (after phase))
    (error : ∀ tokenizer tokenizer' phase s t fault, P tokenizer phase →
      x (tokenizer, s) = (.error fault, tokenizer', t) → P tokenizer' phase) :
    Keeps (OfTokenizer P) (perform operation after (.either x y)) := by
  intro stage s hs
  cases h : perform operation after (.either x y) (stage, s) with
  | mk result left =>
    obtain ⟨stage', t⟩ := left
    cases result with
    | ok a =>
      exact ofTokenizer_of_perform_ok (fun _ _ hs hx => ok _ _ _ _ _ _ hs hx) hs h
    | error fault =>
      exact ofTokenizer_of_perform_error (fun _ _ _ hs hx => error _ _ _ _ _ _ hs hx) hs h

section Stable

variable {P : Chinese.Tokenizer σ ε → Phase → Prop}

theorem keeps_configure (options : Options) :
    Keeps (OfTokenizer P)
      (configure options : Attempt Fault (Stage (Chinese.Tokenizer σ ε ⊕ ρ) × Session σ) Unit) := by
  refine keeps_perform ?_ ?_
  · intro tokenizer tokenizer' phase s t a hs h
    cases h
    exact hs
  · intro tokenizer tokenizer' phase s t fault hs h
    cases h

/-- Loading an engine unless there is one. -/
theorem keeps_load (hP : Chinese.Tokenizer.IsStable P) {y : Attempt Fault (ρ × Session σ) Unit} :
    Keeps (OfTokenizer P) (perform .start (fun _ => .ready)
      (.either Chinese.Tokenizer.loadEngine y) :
        Attempt Fault (Stage (Chinese.Tokenizer σ ε ⊕ ρ) × Session σ) Unit) := by
  refine keeps_perform ?_ ?_
  · intro tokenizer tokenizer' phase s t a hs h
    exact hP.load _ _ _ _ _ hs h
  · intro tokenizer tokenizer' phase s t fault hs h
    obtain ⟨rfl, -⟩ := Chinese.Tokenizer.loadEngine_error h
    exact hs

theorem keeps_ensureReady (hP : Chinese.Tokenizer.IsStable P) :
    Keeps (OfTokenizer P)
      (ensureReady : Attempt Fault (Stage (Chinese.Tokenizer σ ε ⊕ ρ) × Session σ) Unit) := by
  intro stage s hs
  simp only [ensureReady]
  split
  · exact hs
  · exact keeps_load hP stage s hs

theorem keeps_process (hP : Chinese.Tokenizer.IsStable P) (context : RunContext σ) (batch : Batch) :
    Keeps (OfTokenizer P) (process context batch :
      Attempt Fault (Stage (Chinese.Tokenizer σ ε ⊕ ρ) × Session σ) Batch) := by
  have hp : Keeps (OfTokenizer P) (perform .process id (Provider.process context batch) :
      Attempt Fault (Stage (Chinese.Tokenizer σ ε ⊕ ρ) × Session σ) Batch) := by
    refine keeps_perform ?_ ?_
    · intro tokenizer tokenizer' phase s t a hs h
      obtain ⟨rfl, -⟩ := Prod.mk.inj (Prod.mk.inj h).2
      exact hs
    · intro tokenizer tokenizer' phase s t fault hs h
      obtain ⟨rfl, -⟩ := Prod.mk.inj (Prod.mk.inj h).2
      exact hs
  exact (keeps_ensureReady hP).bind fun _ => hp

theorem keeps_release (hP : Chinese.Tokenizer.IsStable P) :
    Keeps (OfTokenizer P)
      (release : Attempt Fault (Stage (Chinese.Tokenizer σ ε ⊕ ρ) × Session σ) Unit) := by
  have hr : Keeps (OfTokenizer P) (perform .release (fun _ => .released) Provider.release :
      Attempt Fault (Stage (Chinese.Tokenizer σ ε ⊕ ρ) × Session σ) Unit) := by
    refine keeps_perform ?_ ?_
    · intro tokenizer tokenizer' phase s t a hs h
      have hd : tokenizer.dropEngine s = (tokenizer', t) := (Prod.mk.inj h).2
      have hdrop := hP.drop tokenizer phase s hs
      rwa [hd] at hdrop
    · intro tokenizer tokenizer' phase s t fault _ h
      cases h
  intro stage s hs
  simp only [release]
  split
  · exact hs
  · exact hr stage s hs

/-! ## Restarts -/

/-- A restart that takes no engine away is a start. -/
theorem keeps_restart_false (hP : Chinese.Tokenizer.IsStable P) :
    Keeps (OfTokenizer P) (restart false :
      Attempt Fault (Stage (Chinese.Tokenizer σ ε ⊕ ρ) × Session σ) Unit) :=
  keeps_load hP

/-- A forced restart does not break what dropping an engine does not break in any phase. -/
theorem keeps_restart_true (hP : Chinese.Tokenizer.IsStable P)
    (hdrop : ∀ tokenizer phase (s : Session σ), P tokenizer phase →
      P (tokenizer.dropEngine s).1 phase) :
    Keeps (OfTokenizer P) (restart true :
      Attempt Fault (Stage (Chinese.Tokenizer σ ε ⊕ ρ) × Session σ) Unit) := by
  refine keeps_perform ?_ ?_
  · intro tokenizer tokenizer' phase s t a ht hx
    exact hP.load _ _ _ _ _ (hdrop tokenizer phase s ht) hx
  · intro tokenizer tokenizer' phase s t fault ht hx
    obtain ⟨rfl, -⟩ := Chinese.Tokenizer.loadEngine_error hx
    exact hdrop tokenizer phase s ht

end Stable

end Stage

/-! ## Operations -/

/-- All stages of a pipeline are sound. -/
def Pipeline.IsSound (pipeline : Pipeline (Chinese.Tokenizer σ ε ⊕ ρ)) : Prop :=
  ∀ stage ∈ pipeline.stages, stage.IsSound

variable [Provider σ ρ]

/-- What is stable no operation breaks, unless it is a forced restart and dropping an engine breaks
it. -/
theorem Act.ofTokenizer_apply {P : Chinese.Tokenizer σ ε → Phase → Prop}
    (hP : Chinese.Tokenizer.IsStable P) {act : Act σ}
    (hdrop : ∀ context, act = .restart context true → ∀ tokenizer phase (s : Session σ),
      P tokenizer phase → P (tokenizer.dropEngine s).1 phase)
    (state : Pipeline (Chinese.Tokenizer σ ε ⊕ ρ) × Session σ)
    (h : ∀ stage ∈ state.1.stages, stage.OfTokenizer P) :
    ∀ stage ∈ (act.apply state).1.stages, stage.OfTokenizer P := by
  refine act.forall_apply (fun _ _ hstep hs => ?_) state h
  cases hstep with
  | configure options => exact Stage.keeps_configure options _ _ hs
  | start context => exact Stage.keeps_ensureReady hP _ _ hs
  | restart context fresh =>
    cases fresh with
    | false => exact Stage.keeps_restart_false hP _ _ hs
    | true => exact Stage.keeps_restart_true hP (hdrop context rfl) _ _ hs
  | process context mode batch reached done stage s =>
    exact Stage.keeps_process hP (context.offset done) reached _ _ hs
  | close => exact Stage.keeps_release hP _ _ hs

end Hanyu
