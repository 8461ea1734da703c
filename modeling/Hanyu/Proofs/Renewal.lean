import Hanyu.Chinese.Declarations
import Hanyu.Proofs.Readiness

/-!
# What starting and working leave as it is

A provider for Chinese consists of what it was made and configured with, and of what it is made
ready with: an engine, or a mark that it has been started. Operations change only the latter, unless
they configure it.

* `Chinese.perform_process_eq`: working leaves a stage as it is.
* `Chinese.process_romanizer_eq`: what a stage with a romanizer does in a run.
* `Chinese.renewed`: a provider as if it had never been started. Starting, restarting, working and
  releasing do not show on it.
-/

namespace Hanyu.Chinese

variable {σ ε : Type}

/-! ## Working -/

theorem process_inl (context : RunContext σ) (batch : Batch) (tokenizer : Tokenizer σ ε)
    (s : Session σ) :
    Provider.process context batch ((.inl tokenizer : Stage σ ε), s) =
      ((tokenizer.tokenize context batch s).1, .inl tokenizer,
        (tokenizer.tokenize context batch s).2) := rfl

theorem process_inr (context : RunContext σ) (batch : Batch) (romanizer : Romanizer σ)
    (s : Session σ) :
    Provider.process context batch ((.inr romanizer : Stage σ ε), s) =
      ((romanizer.romanize context batch s).1, .inr romanizer,
        (romanizer.romanize context batch s).2) := rfl

/-- The romanizer as a stage in some phase makes it ready. -/
def Romanizer.readied (romanizer : Romanizer σ) (phase : Phase) : Romanizer σ :=
  { romanizer with isReady := phase ≠ .ready || romanizer.isReady }

theorem Romanizer.isReady_readied {romanizer : Romanizer σ} {phase : Phase}
    (h : phase = .ready → romanizer.isReady = true) : (romanizer.readied phase).isReady = true := by
  cases phase <;> simp_all [readied]

/-- A romanizer is made ready without any call. -/
theorem ensureReady_romanizer (romanizer : Romanizer σ) (phase : Phase) (s : Session σ) :
    Hanyu.Stage.ensureReady ((⟨.inr romanizer, phase⟩ : Hanyu.Stage (Stage σ ε)), s) =
      (.ok (), ⟨.inr (romanizer.readied phase), .ready⟩, s) := by
  cases phase <;> rfl

/-- Working leaves a stage as it is. -/
theorem perform_process_eq (context : RunContext σ) (batch : Batch)
    (stage : Hanyu.Stage (Stage σ ε)) (s : Session σ) :
    Hanyu.Stage.perform .process id (Provider.process context batch) (stage, s) =
      ((Provider.process context batch (stage.provider, s)).1.mapError
          (·.inStage stage.profile.name .process), stage,
        (Provider.process context batch (stage.provider, s)).2.2) := by
  obtain ⟨provider, phase⟩ := stage
  cases provider with
  | inl tokenizer =>
    simp only [Hanyu.Stage.perform, process_inl]
    rcases tokenizer.tokenize context batch s with ⟨_ | out, t⟩ <;> rfl
  | inr romanizer =>
    simp only [Hanyu.Stage.perform, process_inr]
    rcases romanizer.romanize context batch s with ⟨_ | out, t⟩ <;> rfl

/-- A stage with a romanizer makes it ready and has it work. -/
theorem process_romanizer_eq (context : RunContext σ) (batch : Batch) (romanizer : Romanizer σ)
    (phase : Phase) (s : Session σ) :
    Hanyu.Stage.process context batch ((⟨.inr romanizer, phase⟩ : Hanyu.Stage (Stage σ ε)), s) =
      (((romanizer.readied phase).romanize context batch s).1.mapError
          (·.inStage Romanizer.name .process), ⟨.inr (romanizer.readied phase), .ready⟩,
        ((romanizer.readied phase).romanize context batch s).2) := by
  have hready : Attempt.run Hanyu.Stage.ensureReady
      ((⟨.inr romanizer, phase⟩ : Hanyu.Stage (Stage σ ε)), s) = _ :=
    ensureReady_romanizer romanizer phase s
  rw [Hanyu.Stage.process]
  refine (Attempt.run_bind_ok hready).trans ?_
  exact perform_process_eq context batch _ s

/-! ## Providers as if they had never been started -/

/-- The provider as if it had never been started. -/
def renewed : Stage σ ε → Stage σ ε :=
  Sum.map (fun tokenizer => { tokenizer with engine := none })
    (fun romanizer => { romanizer with isReady := false })

theorem exists_of_renewed_eq_inl {provider : Stage σ ε} {tokenizer : Tokenizer σ ε}
    (h : renewed provider = renewed (.inl tokenizer)) :
    ∃ other, provider = .inl other ∧ other.segmenter = tokenizer.segmenter ∧
      other.limit = tokenizer.limit := by
  cases provider with
  | inl other =>
    obtain ⟨hsegmenter, hlimit, -⟩ : other.segmenter = tokenizer.segmenter ∧
        other.limit = tokenizer.limit ∧ other.interval = tokenizer.interval := by
      simpa [renewed] using h
    exact ⟨other, rfl, hsegmenter, hlimit⟩
  | inr romanizer => cases h

theorem exists_of_renewed_eq_inr {provider : Stage σ ε} {romanizer : Romanizer σ}
    (h : renewed provider = renewed (.inr romanizer)) :
    ∃ other, provider = .inr other ∧ other.pronouncer = romanizer.pronouncer ∧
      other.style = romanizer.style := by
  cases provider with
  | inl tokenizer => cases h
  | inr other =>
    obtain ⟨hpronouncer, hstyle, -⟩ : other.pronouncer = romanizer.pronouncer ∧
        other.style = romanizer.style ∧ other.interval = romanizer.interval := by
      simpa [renewed] using h
    exact ⟨other, rfl, hpronouncer, hstyle⟩

theorem profile_renewed (provider : Stage σ ε) :
    Provider.profile (renewed provider) = Provider.profile provider := by
  cases provider <;> rfl

theorem renewed_loadEngine (tokenizer : Tokenizer σ ε) (s : Session σ) :
    { (Tokenizer.loadEngine (tokenizer, s)).2.1 with engine := none } =
      { tokenizer with engine := none } := by
  obtain ⟨engine, he⟩ := Tokenizer.loadEngine_fst tokenizer s
  rw [he]

theorem renewed_start (provider : Stage σ ε) (s : Session σ) :
    renewed (Provider.start (provider, s)).2.1 = renewed provider := by
  cases provider with
  | inl tokenizer => exact congrArg Sum.inl (renewed_loadEngine tokenizer s)
  | inr romanizer => rfl

theorem renewed_restart (fresh : Bool) (provider : Stage σ ε) (s : Session σ) :
    renewed (Provider.restart fresh (provider, s)).2.1 = renewed provider := by
  cases provider with
  | inl tokenizer =>
    cases fresh with
    | false => exact congrArg Sum.inl (renewed_loadEngine tokenizer s)
    | true =>
      refine congrArg Sum.inl ((renewed_loadEngine (tokenizer.dropEngine s).1 _).trans ?_)
      rw [Tokenizer.dropEngine_fst]
  | inr romanizer => rfl

theorem renewed_release (provider : Stage σ ε) (s : Session σ) :
    renewed (Provider.release (provider, s)).2.1 = renewed provider := by
  cases provider with
  | inl tokenizer =>
    refine congrArg Sum.inl ?_
    change { (tokenizer.dropEngine s).1 with engine := none } = { tokenizer with engine := none }
    rw [Tokenizer.dropEngine_fst]
  | inr romanizer => rfl

theorem renewed_ensureReady (stage : Hanyu.Stage (Stage σ ε)) (s : Session σ) :
    renewed (Hanyu.Stage.ensureReady (stage, s)).2.1.provider = renewed stage.provider := by
  simp only [Hanyu.Stage.ensureReady]
  split
  · rfl
  · rw [(Hanyu.Stage.snd_perform _ _ _ _ _).1]
    exact renewed_start stage.provider s

/-- A run changes nothing of a provider but what it is made ready with. -/
theorem renewed_process (context : RunContext σ) (batch : Batch)
    (stage : Hanyu.Stage (Stage σ ε)) (s : Session σ) :
    renewed (Hanyu.Stage.process context batch (stage, s)).2.1.provider =
      renewed stage.provider := by
  have hready := renewed_ensureReady stage s
  rcases Hanyu.Stage.process_cases context batch stage s with
    ⟨fault, stage', t, hr, hp⟩ | ⟨ready, t, hr, -, hp⟩
  · rw [hr] at hready
    rwa [hp]
  · rw [hr] at hready
    rwa [hp, perform_process_eq]

end Hanyu.Chinese
