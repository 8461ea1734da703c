import Hanyu.Chinese.Tokenizer
import Hanyu.Proofs.Success

/-!
# Failed runs

Where the failure of a run comes from.

* `mapM_error`: the check of a list fails at one of its items.
* `Attempt.bind_error`: one of the two parts of a failed attempt fails.
* `RunContext.workThrough_error`: the run has to stop, or the work on an item fails.
* `Stage.process_error`: the provider of the stage cannot be started, or fails in its work.
* `Stage.processAll_error`: a stage fails, and the stages before it succeed.
* `Pipeline.process_error`: the run has to stop, the mode is not admitted, or its stages fail.
* `Chinese.Tokenizer.tokenize_error`: a tokenizer that holds an engine fails because the run has to
  stop, or at a chunk that is refused, not answered or answered inconsistently.
-/

namespace Hanyu

/-! ## Checked lists -/

theorem mapM_error {ε α β : Type} {f : α → Except ε β} {xs : List α} {e : ε}
    (h : xs.mapM f = .error e) : ∃ x ∈ xs, f x = .error e := by
  induction xs with
  | nil => cases h
  | cons x xs ih =>
    rw [List.mapM_cons] at h
    cases hx : f x with
    | error e' =>
      rw [hx] at h
      cases h
      exact ⟨x, List.mem_cons_self, hx⟩
    | ok y =>
      rw [hx] at h
      cases hxs : xs.mapM f with
      | error e' =>
        rw [hxs] at h
        cases h
        obtain ⟨x', hm, hx'⟩ := ih hxs
        exact ⟨x', List.mem_cons_of_mem _ hm, hx'⟩
      | ok ys =>
        rw [hxs] at h
        cases h

/-! ## Attempts -/

namespace Attempt

variable {ε σ α β : Type}

theorem bind_error {x : Attempt ε σ α} {f : α → Attempt ε σ β} {s t : σ} {e : ε}
    (h : (x >>= f) s = (.error e, t)) :
    x s = (.error e, t) ∨ ∃ a u, x s = (.ok a, u) ∧ f a u = (.error e, t) := by
  change andThen x f s = (.error e, t) at h
  unfold andThen at h
  split at h
  · rename_i a u hx
    exact .inr ⟨a, u, hx, h⟩
  · rename_i e' u hx
    cases h
    exact .inl hx

/-- A part that is made under a condition only. -/
theorem when_error {c : Prop} [Decidable c] {x : Attempt ε σ Unit} {f : Unit → Attempt ε σ β}
    {s t : σ} {e : ε} (h : (if c then x >>= f else f ()) s = (.error e, t)) :
    (c ∧ x s = (.error e, t)) ∨ ∃ u, f () u = (.error e, t) := by
  by_cases hc : c
  · rw [if_pos hc] at h
    rcases bind_error h with h | ⟨_, u, -, h⟩
    · exact .inl ⟨hc, h⟩
    · exact .inr ⟨u, h⟩
  · rw [if_neg hc] at h
    exact .inr ⟨s, h⟩

end Attempt

/-! ## Working through items -/

namespace RunContext

variable {σ α β : Type} {context : RunContext σ} {work : α → Attempt Fault (Session σ) β}

theorem check_error {s : Session σ} {fault : Fault}
    (h : (context.check s).1 = .error fault) : ∃ reason, fault = .cancelled reason := by
  change context.cancellation.check s.signals = .error fault at h
  unfold Cancellation.check at h
  split at h
  · rename_i reason _
    cases h
    exact ⟨reason, rfl⟩
  · cases h

theorem check_eq_ok_iff {s : Session σ} :
    (context.check s).1 = .ok () ↔ context.cancellation.isCancelled s.signals = false := by
  change context.cancellation.check s.signals = .ok () ↔ _
  unfold Cancellation.check Cancellation.isCancelled
  cases context.cancellation.reason? s.signals <;> simp

theorem isCancelled_of_check {s : Session σ} {fault : Fault}
    (h : (context.check s).1 = .error fault) :
    context.cancellation.isCancelled s.signals = true := by
  cases hc : context.cancellation.isCancelled s.signals with
  | true => rfl
  | false =>
    rw [check_eq_ok_iff.mpr hc] at h
    cases h

/-- Looking at the cancellation leaves the session as it is. -/
theorem stopped_of_check {s t : Session σ} {fault : Fault}
    (h : context.check s = (.error fault, t)) : (context.check t).1 = .error fault := by
  obtain ⟨hf, rfl⟩ := Prod.mk.inj h
  exact hf

/-- `P` holds of a failure and the session in which it happens, when it does so if the run has to
stop and if the work fails. -/
theorem workFrom_error {P : Fault → Session σ → Prop}
    (stopped : ∀ fault t, (context.check t).1 = .error fault → P fault t) {items : List α}
    (failed : ∀ item ∈ items, ∀ s t fault, work item s = (.error fault, t) → P fault t)
    {interval total place : Nat} {s t : Session σ} {fault : Fault}
    (h : context.workFrom interval total work place items s = (.error fault, t)) : P fault t := by
  induction items generalizing place s with
  | nil => cases h
  | cons item items ih =>
    rw [workFrom] at h
    rcases Attempt.when_error h with ⟨-, h₁⟩ | ⟨s₁, h₁⟩
    · exact stopped fault t (stopped_of_check h₁)
    · rcases Attempt.bind_error h₁ with hw | ⟨result, s₂, -, h₂⟩
      · exact failed item List.mem_cons_self _ _ _ hw
      · rcases Attempt.bind_error h₂ with h₃ | ⟨_, s₃, -, h₃⟩
        · cases h₃
        · rcases Attempt.bind_error h₃ with h₄ | ⟨results, s₄, -, h₄⟩
          · exact ih (fun item hi => failed item (List.mem_cons_of_mem _ hi)) h₄
          · cases h₄

theorem workThrough_error {P : Fault → Session σ → Prop}
    (stopped : ∀ fault t, (context.check t).1 = .error fault → P fault t) {items : List α}
    (failed : ∀ item ∈ items, ∀ s t fault, work item s = (.error fault, t) → P fault t)
    {interval : Nat} {s t : Session σ} {fault : Fault}
    (h : context.workThrough interval work items s = (.error fault, t)) : P fault t := by
  rcases Attempt.bind_error h with hw | ⟨results, s₁, -, h₁⟩
  · exact workFrom_error stopped failed hw
  · rcases Attempt.bind_error h₁ with h₂ | ⟨_, s₂, -, h₂⟩
    · cases h₂
    · cases h₂

end RunContext

/-! ## Stages -/

namespace Stage

variable {σ π α : Type} [Provider σ π]

theorem perform_error {operation : Operation} {after : Phase → Phase}
    {x : Attempt Fault (π × Session σ) α} {stage stage' : Stage π} {s t : Session σ} {fault : Fault}
    (h : perform operation after x (stage, s) = (.error fault, stage', t)) :
    ∃ cause, x (stage.provider, s) = (.error cause, stage'.provider, t) ∧
      stage'.phase = stage.phase ∧
        fault = cause.inStage (Provider.profile stage'.provider).name operation := by
  simp only [perform] at h
  split at h
  · cases h
  · rename_i cause provider u hx
    cases h
    exact ⟨cause, hx, rfl, rfl⟩

theorem ensureReady_error {stage stage' : Stage π} {s t : Session σ} {fault : Fault}
    (h : ensureReady (stage, s) = (.error fault, stage', t)) :
    stage.phase ≠ .ready ∧ stage'.phase = stage.phase ∧ ∃ cause,
      Provider.start (stage.provider, s) = (.error cause, stage'.provider, t) ∧
        fault = cause.inStage (Provider.profile stage'.provider).name .start := by
  simp only [ensureReady] at h
  split at h
  · cases h
  · rename_i hp
    obtain ⟨cause, hx, ha, hf⟩ := perform_error h
    exact ⟨hp, ha, cause, hx, hf⟩

/-- The provider of the stage cannot be started, or it fails in its work. -/
theorem process_error {context : RunContext σ} {batch : Batch} {stage stage' : Stage π}
    {s t : Session σ} {fault : Fault}
    (h : process context batch (stage, s) = (.error fault, stage', t)) :
    ensureReady (stage, s) = (.error fault, stage', t) ∨
      ∃ ready u cause, ensureReady (stage, s) = (.ok (), ready, u) ∧
        Provider.process context batch (ready.provider, u) = (.error cause, stage'.provider, t) ∧
          fault = cause.inStage (Provider.profile stage'.provider).name .process := by
  rcases Attempt.bind_error h with hr | ⟨_, ⟨ready, u⟩, hr, hp⟩
  · exact .inl hr
  · obtain ⟨cause, hx, -, hf⟩ := perform_error hp
    exact .inr ⟨ready, u, cause, hr, hx, hf⟩

/-- A run through stages fails in one that it comes to: the stages before it succeed. -/
theorem processAll_error {context : RunContext σ} {mode : Mode} {done : UInt64} {batch : Batch}
    {stages : List (Stage π)} {s : Session σ} {fault : Fault}
    (h : (processAll context mode done batch stages s).1 = .error fault) :
    ∃ before stage after, stages = before ++ stage :: after ∧
      mode.selects stage.profile.kind = true ∧ ∃ reached before' t,
        processAll context mode done batch before s = (.ok reached, before', t) ∧
          ∃ done' stage' u, process (context.offset done') reached
            (stage, { t with stageTotal := 0 }) = (.error fault, stage', u) := by
  induction stages generalizing done batch s with
  | nil => cases h
  | cons stage stages ih =>
    rw [processAll] at h
    by_cases hm : mode.selects stage.profile.kind = true
    · rw [if_pos hm] at h
      split at h
      · rename_i hp
        cases h
        exact ⟨[], stage, stages, rfl, hm, batch, [], s, rfl, done, _, _, hp⟩
      · rename_i out stage' u hp
        obtain ⟨before, last, after, rfl, hl, reached, before', t, hb, hrest⟩ := ih h
        refine ⟨stage :: before, last, after, rfl, hl, reached, stage' :: before', t, ?_, hrest⟩
        rw [processAll, if_pos hm, hp]
        exact congrArg (Outcome.cons stage') hb
    · rw [if_neg hm] at h
      obtain ⟨before, last, after, rfl, hl, reached, before', t, hb, hrest⟩ := ih h
      refine ⟨stage :: before, last, after, rfl, hl, reached, stage :: before', t, ?_, hrest⟩
      rw [processAll, if_neg hm]
      exact congrArg (Outcome.cons stage) hb

end Stage

/-! ## Pipelines -/

namespace Pipeline

variable {σ π : Type} [Provider σ π]

omit [Provider σ π] in
theorem check_error {context : RunContext σ} {state state' : Pipeline π × Session σ} {fault : Fault}
    (h : check context state = (.error fault, state')) : ∃ reason, fault = .cancelled reason := by
  obtain ⟨h, -⟩ := Prod.mk.inj h
  exact RunContext.check_error h

theorem admits_error {mode : Mode} {batch : Batch} {state state' : Pipeline π × Session σ}
    {fault : Fault} (h : admits mode batch state = (.error fault, state')) :
    fault = .configuration (.unsupportedMode state.1.name mode) ∨
      fault = .configuration .rawChunks := by
  simp only [admits] at h
  split at h
  · cases h
    exact .inl rfl
  · split at h
    · cases h
      exact .inr rfl
    · cases h

/-- The run has to stop, the pipeline does not admit it, or it fails in its stages. -/
theorem process_error {context : RunContext σ} {mode : Mode} {batch : Batch}
    {pipeline : Pipeline π} {s : Session σ} {fault : Fault}
    (h : (process context mode batch (pipeline, s)).1 = .error fault) :
    (∃ reason, fault = .cancelled reason) ∨
      (∃ problem, fault = .configuration problem) ∨
        (context.check s).1 = .ok () ∧ pipeline.supports mode = true ∧
          (Stage.processAll context mode 0 batch pipeline.stages s).1 = .error fault := by
  rcases Attempt.bind_error (Prod.ext h rfl) with hc | ⟨_, ⟨p₁, s₁⟩, hc, h₁⟩
  · exact .inl (check_error hc)
  have hrun : (context.check s).1 = .ok () := (Prod.mk.inj hc).1
  obtain ⟨rfl, rfl⟩ := check_ok hc
  rcases Attempt.bind_error h₁ with ha | ⟨_, ⟨p₂, s₂⟩, ha, h₂⟩
  · rcases admits_error ha with rfl | rfl
    · exact .inr (.inl ⟨_, rfl⟩)
    · exact .inr (.inl ⟨_, rfl⟩)
  obtain ⟨rfl, rfl, hs, -⟩ := admits_ok ha
  exact .inr (.inr ⟨hrun, hs, (Prod.mk.inj h₂).1⟩)

end Pipeline

/-! ## Tokenizers -/

namespace Chinese.Tokenizer

variable {σ ε : Type} {tokenizer : Tokenizer σ ε} {engine : ε}

theorem tokensOf_error {chunk : Text} {segmentation : Segmentation} {fault : Fault}
    (h : tokensOf chunk segmentation = .error fault) : ∃ mismatch, fault = .consistency mismatch := by
  simp only [tokensOf, Segmentation.attachTags] at h
  split at h
  · cases h
  · cases h
    exact ⟨_, rfl⟩

/-- How a tokenizer fails at a chunk. -/
inductive ChunkFault (tokenizer : Tokenizer σ ε) (engine : ε) (chunk : Text) : Fault → Prop where
  | refused (hpos : 0 < tokenizer.limit) (hlt : tokenizer.limit < chunk.length) :
    ChunkFault tokenizer engine chunk (.configuration (.oversizedChunk chunk.length tokenizer.limit))
  | unanswered {notes : σ} {fault : Fault}
    (h : (tokenizer.segmenter.segment engine chunk notes).answer = .error fault) :
    ChunkFault tokenizer engine chunk fault
  | inconsistent {notes : σ} {segmentation : Segmentation} {fault : Fault}
    (h : (tokenizer.segmenter.segment engine chunk notes).answer = .ok segmentation)
    (ht : tokensOf chunk segmentation = .error fault) : ChunkFault tokenizer engine chunk fault

theorem tokenizeChunk_error {chunk : Text} {s t : Session σ} {fault : Fault}
    (h : tokenizer.tokenizeChunk engine chunk s = (.error fault, t)) :
    tokenizer.ChunkFault engine chunk fault := by
  unfold tokenizeChunk at h
  rcases Attempt.when_error h with ⟨hc, h₁⟩ | ⟨s₁, h₁⟩
  · simp only [Bool.and_eq_true, decide_eq_true_eq] at hc
    cases h₁
    exact .refused hc.1 hc.2
  · rcases Attempt.bind_error h₁ with h₂ | ⟨segmentation, s₂, h₂, h₃⟩
    · exact .unanswered (Prod.mk.inj h₂).1
    · exact .inconsistent (Prod.mk.inj h₂).1 (Prod.mk.inj h₃).1

/-- A tokenizer that holds an engine fails because the run has to stop, or at one of the chunks. -/
theorem tokenize_error (he : tokenizer.engine = some engine) {context : RunContext σ}
    {batch : Batch} {s t : Session σ} {fault : Fault}
    (h : tokenize context batch tokenizer s = (.error fault, t)) :
    (context.check t).1 = .error fault ∨
      ∃ chunk ∈ batch.raw, tokenizer.ChunkFault engine chunk fault := by
  rcases Attempt.bind_error h with h₁ | ⟨_, s₁, -, h₁⟩
  · exact .inl (RunContext.stopped_of_check h₁)
  · rw [he] at h₁
    rcases Attempt.bind_error h₁ with h₂ | ⟨pieces, s₂, -, h₂⟩
    · refine RunContext.workThrough_error (P := fun fault t => (context.check t).1 = .error fault ∨
        ∃ chunk ∈ batch.raw, tokenizer.ChunkFault engine chunk fault) ?_ ?_ h₂
      · exact fun fault t hf => .inl hf
      · exact fun chunk hc s t fault hf => .inr ⟨chunk, hc, tokenizeChunk_error hf⟩
    · cases h₂

end Chinese.Tokenizer

end Hanyu
