import Hanyu.Chinese.Romanizer
import Hanyu.Proofs.LostEngines

/-!
# Dependable pipelines

What the users of a pipeline with tokenizers may rely on after any operations, however often engines
cannot be loaded, and at which tokenizers they may not.

* `Pipeline.told_of_process_error`: no run fails for want of an engine by itself, unless it comes to
  a tokenizer that is bereft.
* `Pipeline.ComesTo.process_of_isBereft`: there it does, and no engine is made.
* `Stage.process_of_refused`, `Stage.stage_process_of_loaded`: a run that comes to any other
  tokenizer without an engine has one made and loaded.
* `isDependable_applyAll`: all of this after any operations. The tokenizers that are bereft are those
  at which a forced restart has failed and nothing has made up for it.
-/

namespace Hanyu

variable {σ ε ρ : Type} [Provider σ ρ]

/-! ## Failures for want of an engine -/

/-- Code from outside says of its own accord that there is no engine. -/
inductive Pipeline.IsToldNotLoaded (pipeline : Pipeline (Chinese.Tokenizer σ ε ⊕ ρ)) : Prop where
  | load {stage : Stage (Chinese.Tokenizer σ ε ⊕ ρ)} {tokenizer : Chinese.Tokenizer σ ε}
    {engine : ε} {notes : σ} {fault : Fault} (hs : stage ∈ pipeline.stages)
    (ht : stage.provider = .inl tokenizer)
    (ha : (tokenizer.segmenter.load engine notes).answer = .error fault)
    (hf : fault.root = .initialization .segmenterNotLoaded)
  | segment {stage : Stage (Chinese.Tokenizer σ ε ⊕ ρ)} {tokenizer : Chinese.Tokenizer σ ε}
    {engine : ε} {chunk : Text} {notes : σ} {fault : Fault} (hs : stage ∈ pipeline.stages)
    (ht : stage.provider = .inl tokenizer)
    (ha : (tokenizer.segmenter.segment engine chunk notes).answer = .error fault)
    (hf : fault.root = .initialization .segmenterNotLoaded)
  /-- A stage without a tokenizer fails in this way. -/
  | other {stage : Stage (Chinese.Tokenizer σ ε ⊕ ρ)} {provider : ρ} {context : RunContext σ}
    {batch : Batch} {s : Session σ} {fault : Fault} (hs : stage ∈ pipeline.stages)
    (hp : stage.provider = .inr provider)
    (h : (Stage.process context batch (stage, s)).1 = .error fault)
    (hf : fault.root = .initialization .segmenterNotLoaded)

/-- A tokenizer that holds an engine fails for want of one only when the engine says so. -/
theorem Chinese.Tokenizer.segment_of_tokenize_error {tokenizer : Chinese.Tokenizer σ ε} {engine : ε}
    (he : tokenizer.engine = some engine) {context : RunContext σ} {batch : Batch}
    {s t : Session σ} {fault : Fault} (h : tokenize context batch tokenizer s = (.error fault, t))
    (hf : fault.root = .initialization .segmenterNotLoaded) :
    ∃ chunk notes, (tokenizer.segmenter.segment engine chunk notes).answer = .error fault := by
  rcases tokenize_error he h with hstop | ⟨chunk, -, hchunk⟩
  · obtain ⟨reason, rfl⟩ := RunContext.check_error hstop
    cases hf
  · cases hchunk with
    | refused hpos hlt => cases hf
    | unanswered ha => exact ⟨chunk, _, ha⟩
    | inconsistent _ ht =>
      obtain ⟨mismatch, rfl⟩ := tokensOf_error ht
      cases hf

/-- Without an engine a tokenizer does nothing but fail. -/
theorem Chinese.Tokenizer.tokenize_of_none {tokenizer : Chinese.Tokenizer σ ε}
    (he : tokenizer.engine = none) {context : RunContext σ} {s : Session σ}
    (hc : (context.check s).1 = .ok ()) {batch : Batch} :
    tokenize context batch tokenizer s = (.error (.initialization .segmenterNotLoaded), s) := by
  have hcheck : context.check s = (.ok (), s) := Prod.ext hc rfl
  refine (Attempt.run_bind_ok hcheck).trans ?_
  rw [he]
  rfl

/-- A tokenizer that has been made ready is the same one, but for its engine. -/
theorem Stage.provider_of_ensureReady {stage ready : Stage (Chinese.Tokenizer σ ε ⊕ ρ)}
    {tokenizer : Chinese.Tokenizer σ ε} (hp : stage.provider = .inl tokenizer) {s t : Session σ}
    (h : ensureReady (stage, s) = (.ok (), ready, t)) :
    ready.phase = .ready ∧ ∃ engine, ready.provider = .inl { tokenizer with engine } := by
  rcases ensureReady_ok h with ⟨hphase, rfl, -⟩ | ⟨-, hphase, hstart⟩
  · exact ⟨hphase, tokenizer.engine, hp⟩
  · rw [hp] at hstart
    obtain ⟨loaded, hl, hload⟩ := Attempt.either_inl_eq_iff.mp hstart
    obtain ⟨engine, he⟩ := Chinese.Tokenizer.loadEngine_fst tokenizer s
    have hloaded : loaded = { tokenizer with engine } := by
      rw [← he]
      exact (congrArg (fun result => result.2.1) hload).symm
    exact ⟨hphase, engine, by rw [hl, hloaded]⟩

/-- A tokenizer that has been made ready holds an engine, unless it was bereft. -/
theorem Stage.engine_of_ensureReady {stage ready : Stage (Chinese.Tokenizer σ ε ⊕ ρ)}
    {tokenizer : Chinese.Tokenizer σ ε} (hb : ¬stage.IsBereft) (hp : stage.provider = .inl tokenizer)
    {s t : Session σ} (h : ensureReady (stage, s) = (.ok (), ready, t)) :
    ∃ engine, ready.provider = .inl { tokenizer with engine := some engine } := by
  obtain ⟨hphase, held, hl⟩ := provider_of_ensureReady hp h
  cases held with
  | some engine => exact ⟨engine, hl⟩
  | none =>
    have hsame := isBereft_ensureReady stage s
    rw [h] at hsame
    exact absurd (hsame.mp ⟨hphase, _, hl, rfl⟩) hb

/-- A stage that fails for want of an engine was told so, unless it is bereft. -/
theorem Pipeline.told_of_stage_process {pipeline : Pipeline (Chinese.Tokenizer σ ε ⊕ ρ)}
    {stage stage' : Stage (Chinese.Tokenizer σ ε ⊕ ρ)} (hm : stage ∈ pipeline.stages)
    (hb : ¬stage.IsBereft) {context : RunContext σ} {batch : Batch} {s t : Session σ}
    {fault : Fault} (h : Stage.process context batch (stage, s) = (.error fault, stage', t))
    (hf : fault.root = .initialization .segmenterNotLoaded) : pipeline.IsToldNotLoaded := by
  cases hprov : stage.provider with
  | inr provider => exact .other hm hprov (congrArg Prod.fst h) hf
  | inl tokenizer =>
    rcases Stage.process_error h with hready | ⟨ready, v, cause, hready, hproc, rfl⟩
    · -- Starting fails only because loading does.
      obtain ⟨-, -, cause, hstart, rfl⟩ := Stage.ensureReady_error hready
      rw [hprov] at hstart
      obtain ⟨_, -, hload⟩ := Attempt.either_inl_eq_iff.mp hstart
      obtain ⟨-, -, engine, notes, ha⟩ := Chinese.Tokenizer.loadEngine_error hload
      exact .load hm hprov ha hf
    · -- Once it is ready, the tokenizer holds an engine, and does not miss it.
      obtain ⟨engine, hl⟩ := Stage.engine_of_ensureReady hb hprov hready
      rw [hl] at hproc
      obtain ⟨_, -, htok⟩ := Attempt.either_inl_eq_iff.mp hproc
      have hfail : (Chinese.Tokenizer.tokenize context batch
          { tokenizer with engine := some engine } v).1 = .error cause := (Prod.mk.inj htok).1
      obtain ⟨chunk, notes, ha⟩ :=
        Chinese.Tokenizer.segment_of_tokenize_error rfl (Prod.ext hfail rfl) hf
      exact .segment hm hprov ha hf

/-! ## Runs that come to a tokenizer without an engine -/

namespace Stage

/-- When no engine is loaded, the stage stays as it is. -/
theorem process_of_refused {tokenizer : Chinese.Tokenizer σ ε} {phase : Phase}
    (he : tokenizer.engine = none) (hp : phase ≠ .ready) {s t : Session σ} {fault : Fault}
    (ho : tokenizer.segmenter.opened s = (.error fault, t)) (context : RunContext σ)
    (batch : Batch) :
    process context batch ((⟨.inl tokenizer, phase⟩ : Stage (Chinese.Tokenizer σ ε ⊕ ρ)), s) =
      (.error (fault.inStage Chinese.Tokenizer.name .start), ⟨.inl tokenizer, phase⟩, t) := by
  have hload : Chinese.Tokenizer.loadEngine (tokenizer, s) = (.error fault, tokenizer, t) := by
    rw [Chinese.Tokenizer.loadEngine_of_none he, ho]
  have hstart : (Provider.start : Attempt Fault ((Chinese.Tokenizer σ ε ⊕ ρ) × Session σ) Unit)
      (.inl tokenizer, s) = (.error fault, .inl tokenizer, t) :=
    Attempt.either_inl_eq_iff.mpr ⟨tokenizer, rfl, hload⟩
  refine Attempt.run_bind_error ?_
  simp only [Attempt.run, ensureReady, if_neg hp, perform, hstart]
  rfl

/-- When an engine is loaded, the tokenizer works with it. -/
theorem process_of_loaded {tokenizer : Chinese.Tokenizer σ ε} {phase : Phase}
    (he : tokenizer.engine = none) (hp : phase ≠ .ready) {s t : Session σ} {engine : ε}
    (ho : tokenizer.segmenter.opened s = (.ok engine, t)) (context : RunContext σ) (batch : Batch) :
    process context batch ((⟨.inl tokenizer, phase⟩ : Stage (Chinese.Tokenizer σ ε ⊕ ρ)), s) =
      perform .process id (Provider.process context batch)
        (⟨.inl { tokenizer with engine := some engine }, .ready⟩, t) := by
  have hload : Chinese.Tokenizer.loadEngine (tokenizer, s) =
      (.ok (), { tokenizer with engine := some engine }, t) := by
    rw [Chinese.Tokenizer.loadEngine_of_none he, ho]
  have hstart : (Provider.start : Attempt Fault ((Chinese.Tokenizer σ ε ⊕ ρ) × Session σ) Unit)
      (.inl tokenizer, s) = (.ok (), .inl { tokenizer with engine := some engine }, t) :=
    Attempt.either_inl_eq_iff.mpr ⟨_, rfl, hload⟩
  have hready : (ensureReady.run ((⟨.inl tokenizer, phase⟩ : Stage (Chinese.Tokenizer σ ε ⊕ ρ)), s)) =
      (.ok (), ⟨.inl { tokenizer with engine := some engine }, .ready⟩, t) := by
    simp only [Attempt.run, ensureReady, if_neg hp, perform, hstart]
  exact Attempt.run_bind_ok hready

/-- When an engine is loaded, the stage is ready and keeps it, whatever comes of the run. -/
theorem stage_process_of_loaded {tokenizer : Chinese.Tokenizer σ ε} {phase : Phase}
    (he : tokenizer.engine = none) (hp : phase ≠ .ready) {s t : Session σ} {engine : ε}
    (ho : tokenizer.segmenter.opened s = (.ok engine, t)) (context : RunContext σ) (batch : Batch) :
    (process context batch
        ((⟨.inl tokenizer, phase⟩ : Stage (Chinese.Tokenizer σ ε ⊕ ρ)), s)).2.1 =
      ⟨.inl { tokenizer with engine := some engine }, .ready⟩ := by
  rw [process_of_loaded he hp ho, stage_perform_process]

/-- A tokenizer that is bereft fails, and does not have an engine made. -/
theorem process_of_isBereft {stage : Stage (Chinese.Tokenizer σ ε ⊕ ρ)} (hb : stage.IsBereft)
    {context : RunContext σ} {s : Session σ} (hc : (context.check s).1 = .ok ()) (batch : Batch) :
    process context batch (stage, s) =
      (.error (Fault.inStage (.initialization .segmenterNotLoaded) Chinese.Tokenizer.name .process),
        stage, s) := by
  obtain ⟨provider, phase⟩ := stage
  obtain ⟨hp, tokenizer, ht, he⟩ := hb
  obtain rfl : phase = .ready := hp
  obtain rfl : provider = .inl tokenizer := ht
  have hprocess : (Provider.process context batch :
      Attempt Fault ((Chinese.Tokenizer σ ε ⊕ ρ) × Session σ) Batch) (.inl tokenizer, s) =
      (.error (.initialization .segmenterNotLoaded), .inl tokenizer, s) := by
    refine Attempt.either_inl_eq_iff.mpr ⟨tokenizer, rfl, ?_⟩
    simp only [Provider.process, Chinese.Tokenizer.tokenize_of_none he hc]
  have hready : ensureReady.run ((⟨.inl tokenizer, .ready⟩ : Stage (Chinese.Tokenizer σ ε ⊕ ρ)), s) =
      (.ok (), ⟨.inl tokenizer, .ready⟩, s) := rfl
  refine (Attempt.run_bind_ok hready).trans ?_
  simp only [Attempt.run, perform, hprocess]
  rfl

end Stage

/-- A run comes to the tokenizer after some stages: it does not have to stop, the pipeline supports
its mode, tokenizers take part in it, and the stages before succeed. -/
structure Pipeline.ComesTo (pipeline : Pipeline (Chinese.Tokenizer σ ε ⊕ ρ)) (s : Session σ)
    (context : RunContext σ) (mode : Mode) (batch : Batch)
    (before before' : List (Stage (Chinese.Tokenizer σ ε ⊕ ρ))) (t : Session σ) : Prop where
  running : (context.check s).1 = .ok ()
  supported : pipeline.supports mode = true
  selected : mode.selects .tokenizer = true
  succeeded : ∃ reached, Stage.processAll context mode 0 batch before s = (.ok reached, before', t)

section ComesTo

variable {pipeline : Pipeline (Chinese.Tokenizer σ ε ⊕ ρ)} {s t : Session σ}
  {context : RunContext σ} {mode : Mode} {batch : Batch}
  {before before' after : List (Stage (Chinese.Tokenizer σ ε ⊕ ρ))}
  {stage : Stage (Chinese.Tokenizer σ ε ⊕ ρ)}

/-- A run that comes to a tokenizer goes on with it: it fails when the stage does, and leaves it
behind as it has become. -/
theorem Pipeline.ComesTo.process_eq (h : pipeline.ComesTo s context mode batch before before' t)
    (hs : pipeline.stages = before ++ stage :: after) (hk : stage.profile.kind = .tokenizer) :
    ∃ done reached,
      (∀ fault stage' u, Stage.process (context.offset done) reached
          (stage, { t with stageTotal := 0 }) = (.error fault, stage', u) →
        Pipeline.process context mode batch (pipeline, s) =
          (.error fault, { pipeline with stages := before' ++ stage' :: after }, u)) ∧
      ∃ later, (Pipeline.process context mode batch (pipeline, s)).2.1.stages = before' ++
        (Stage.process (context.offset done) reached
          (stage, { t with stageTotal := 0 })).2.1 :: later := by
  obtain ⟨hrun, hsup, hsel, reached, hb⟩ := h
  have hraw : mode = .transliterate → batch.raw = [] := by
    rintro rfl
    cases hsel
  obtain ⟨done, ha⟩ := Stage.processAll_append hb (stage :: after)
  rw [Pipeline.process_eq hrun hsup hraw]
  simp only [Pipeline.onStages, hs, ha]
  rw [Stage.processAll, if_pos (by rw [hk, hsel])]
  refine ⟨done, reached, ?_, ?_⟩
  · intro fault stage' u hp
    rw [hp]
  · cases hp : Stage.process (context.offset done) reached (stage, { t with stageTotal := 0 }) with
    | mk result left =>
      cases result with
      | ok out => exact ⟨_, rfl⟩
      | error fault => exact ⟨after, rfl⟩

/-- A run that comes to a bereft tokenizer fails there, and leaves it so. -/
theorem Pipeline.ComesTo.process_of_isBereft
    (h : pipeline.ComesTo s context mode batch before before' t)
    (hs : pipeline.stages = before ++ stage :: after) (hb : stage.IsBereft)
    (hc : (context.check t).1 = .ok ()) :
    Pipeline.process context mode batch (pipeline, s) =
      (.error (Fault.inStage (.initialization .segmenterNotLoaded) Chinese.Tokenizer.name .process),
        { pipeline with stages := before' ++ stage :: after }, { t with stageTotal := 0 }) := by
  obtain ⟨done, reached, hfail, -⟩ := h.process_eq hs hb.kind
  have hcheck : ((context.offset done).check { t with stageTotal := 0 }).1 = .ok () := hc
  exact hfail _ _ _ (Stage.process_of_isBereft hb hcheck reached)

/-- A run that fails for want of an engine was told so, or came to a bereft tokenizer. -/
theorem Pipeline.told_of_process_error {fault : Fault}
    (h : (Pipeline.process context mode batch (pipeline, s)).1 = .error fault)
    (hf : fault.root = .initialization .segmenterNotLoaded) :
    pipeline.IsToldNotLoaded ∨
      ∃ before stage after before' t, pipeline.stages = before ++ stage :: after ∧
        stage.IsBereft ∧ pipeline.ComesTo s context mode batch before before' t := by
  rcases Pipeline.process_error h with ⟨reason, rfl⟩ | ⟨problem, rfl⟩ | ⟨hrun, hsup, hfail⟩
  · cases hf
  · cases hf
  obtain ⟨before, stage, after, hs, hsel, reached, before', t, hb, done, stage', u, hp⟩ :=
    Stage.processAll_error hfail
  by_cases hbereft : stage.IsBereft
  · rw [hbereft.kind] at hsel
    exact .inr ⟨before, stage, after, before', t, hs, hbereft, hrun, hsup, hsel, reached, hb⟩
  · have hm : stage ∈ pipeline.stages := by simp [hs]
    exact .inl (told_of_stage_process hm hbereft hp hf)

end ComesTo

/-! ## Dependable pipelines -/

/-- What users of a pipeline may rely on when the tokenizers at some places have lost their
engines. -/
structure Pipeline.IsDependable (pipeline : Pipeline (Chinese.Tokenizer σ ε ⊕ ρ)) (s : Session σ)
    (lost : Nat → Prop) : Prop where
  /-- A tokenizer that is ready holds an engine that was loaded, unless it has lost it. -/
  holds : ∀ place tokenizer, pipeline.stages[place]? = some ⟨.inl tokenizer, .ready⟩ →
    ¬lost place → ∃ engine, tokenizer.engine = some engine ∧ tokenizer.segmenter.Loads engine
  /-- One that has lost its engine is ready, too, but holds none. -/
  lacks : ∀ place, lost place → ∃ tokenizer,
    pipeline.stages[place]? = some ⟨.inl tokenizer, .ready⟩ ∧ tokenizer.engine = none
  /-- A run that fails for want of an engine was told so by code from outside, or came to a tokenizer
  that has lost its engine. -/
  told : ∀ context mode batch fault,
    (Pipeline.process context mode batch (pipeline, s)).1 = .error fault →
      fault.root = .initialization .segmenterNotLoaded →
        pipeline.IsToldNotLoaded ∨ ∃ before stage after before' t,
          pipeline.stages = before ++ stage :: after ∧ lost before.length ∧
            pipeline.ComesTo s context mode batch before before' t
  /-- A run that comes to a tokenizer that has lost its engine fails for want of it when it does not
  have to stop there. No engine is made. -/
  missed : ∀ before stage after, pipeline.stages = before ++ stage :: after → lost before.length →
    ∀ context mode batch before' t, pipeline.ComesTo s context mode batch before before' t →
      (context.check t).1 = .ok () →
        Pipeline.process context mode batch (pipeline, s) =
          (.error (Fault.inStage (.initialization .segmenterNotLoaded) Chinese.Tokenizer.name
              .process),
            { pipeline with stages := before' ++ stage :: after }, { t with stageTotal := 0 })
  /-- A run that comes to any other tokenizer without an engine has one made and loaded. When that is
  refused, the run fails so, and the tokenizer is as it was. -/
  refused : ∀ before tokenizer phase after,
    pipeline.stages = before ++ ⟨.inl tokenizer, phase⟩ :: after → ¬lost before.length →
      tokenizer.engine = none →
        ∀ context mode batch before' t, pipeline.ComesTo s context mode batch before before' t →
          ∀ fault u, tokenizer.segmenter.opened { t with stageTotal := 0 } = (.error fault, u) →
            Pipeline.process context mode batch (pipeline, s) =
              (.error (fault.inStage Chinese.Tokenizer.name .start),
                { pipeline with stages := before' ++ ⟨.inl tokenizer, phase⟩ :: after }, u)
  /-- When it is not refused, the tokenizer is ready and keeps the engine, even if the run fails
  later on. -/
  loaded : ∀ before tokenizer phase after,
    pipeline.stages = before ++ ⟨.inl tokenizer, phase⟩ :: after → ¬lost before.length →
      tokenizer.engine = none →
        ∀ context mode batch before' t, pipeline.ComesTo s context mode batch before before' t →
          ∀ engine u, tokenizer.segmenter.opened { t with stageTotal := 0 } = (.ok engine, u) →
            ∃ later, (Pipeline.process context mode batch (pipeline, s)).2.1.stages =
              before' ++ ⟨.inl { tokenizer with engine := some engine }, .ready⟩ :: later

omit [Provider σ ρ] in
theorem Pipeline.isBereftAt_length_iff {pipeline : Pipeline (Chinese.Tokenizer σ ε ⊕ ρ)}
    {before after : List (Stage (Chinese.Tokenizer σ ε ⊕ ρ))}
    {stage : Stage (Chinese.Tokenizer σ ε ⊕ ρ)} (hs : pipeline.stages = before ++ stage :: after) :
    pipeline.IsBereftAt before.length ↔ stage.IsBereft := by
  simp [IsBereftAt, hs]

/-- A pipeline is dependable but for its bereft tokenizers when the others hold no engines but loaded
ones. -/
theorem Pipeline.HoldsLoaded.isDependable {pipeline : Pipeline (Chinese.Tokenizer σ ε ⊕ ρ)}
    (h : pipeline.HoldsLoaded) (s : Session σ) :
    pipeline.IsDependable s pipeline.IsBereftAt := by
  have hphase : ∀ {before : List _} {tokenizer phase after},
      pipeline.stages = before ++ ⟨.inl tokenizer, phase⟩ :: after →
        ¬pipeline.IsBereftAt before.length → tokenizer.engine = none → phase ≠ .ready := by
    rintro before tokenizer phase after hs hb he rfl
    exact hb ((isBereftAt_length_iff hs).mpr ⟨rfl, tokenizer, rfl, he⟩)
  constructor
  · intro place tokenizer hs hb
    cases he : tokenizer.engine with
    | none => exact absurd ⟨_, hs, rfl, tokenizer, rfl, he⟩ hb
    | some engine => exact ⟨engine, rfl, h _ (List.mem_of_getElem? hs) tokenizer rfl engine he⟩
  · rintro place ⟨⟨provider, phase⟩, hs, hp, tokenizer, ht, he⟩
    obtain rfl : phase = .ready := hp
    obtain rfl : provider = .inl tokenizer := ht
    exact ⟨tokenizer, hs, he⟩
  · intro context mode batch fault hfault hf
    refine (told_of_process_error hfault hf).imp_right ?_
    rintro ⟨before, stage, after, before', t, hs, hb, hc⟩
    exact ⟨before, stage, after, before', t, hs, (isBereftAt_length_iff hs).mpr hb, hc⟩
  · intro before stage after hs hb context mode batch before' t hc hcheck
    exact hc.process_of_isBereft hs ((isBereftAt_length_iff hs).mp hb) hcheck
  · intro before tokenizer phase after hs hb he context mode batch before' t hc fault u ho
    obtain ⟨done, reached, hfail, -⟩ := hc.process_eq hs rfl
    exact hfail _ _ _ (Stage.process_of_refused he (hphase hs hb he) ho _ reached)
  · intro before tokenizer phase after hs hb he context mode batch before' t hc engine u ho
    obtain ⟨done, reached, -, later, hl⟩ := hc.process_eq hs rfl
    rw [Stage.stage_process_of_loaded he (hphase hs hb he) ho _ reached] at hl
    exact ⟨later, hl⟩

/-- **Which failed loads do harm.** After any operations on new stages a pipeline is dependable, but
for the tokenizers that have lost their engines: those at which a forced restart has failed while
they were ready, with no restart since that succeeded there, and no closing. -/
theorem isDependable_applyAll (name : Text) (limit : Nat)
    (providers : List (Chinese.Tokenizer σ ε ⊕ ρ)) (session : Session σ)
    (h : ∀ tokenizer, .inl tokenizer ∈ providers → tokenizer.HoldsLoaded) (acts : List (Act σ)) :
    let start := (Pipeline.ofProviders name limit providers, session)
    let state := Act.applyAll acts start
    state.1.IsDependable state.2 fun place => Act.HaveLost start place acts := by
  intro start state
  have hloaded : start.1.HoldsLoaded := by
    intro stage hm tokenizer ht
    obtain ⟨provider, hp, rfl⟩ := List.mem_map.mp hm
    exact h tokenizer (ht ▸ hp)
  have hfresh : ∀ place, ¬start.1.IsBereftAt place := by
    rintro place ⟨stage, hs, hb⟩
    obtain ⟨provider, -, rfl⟩ := List.mem_map.mp (List.mem_of_getElem? hs)
    cases hb.1
  have hlost : state.1.IsBereftAt = fun place => Act.HaveLost start place acts :=
    funext fun place => propext (Act.isBereftAt_applyAll_iff (hfresh place) acts)
  rw [← hlost]
  exact (hloaded.applyAll acts).isDependable state.2

/-- The segmenter whose notes tell which loads succeed. -/
def Chinese.Segmenter.scripted : Chinese.Segmenter (List Bool) Unit where
  create := .answer ()
  load _ := fun
    | [] => ⟨.ok (), [], []⟩
    | true :: later => ⟨.ok (), later, []⟩
    | false :: later => ⟨.error (.initialization (.refused "engine refused")), later, []⟩
  segment _ _ := .answer (.ok .empty)
  unload _ := .answer ()

/-- A tokenizer with this segmenter, and a romanizer. -/
def Pipeline.scripted :
    Pipeline (Chinese.Tokenizer (List Bool) Unit ⊕ Chinese.Romanizer (List Bool)) :=
  .ofProviders [] 0 [.inl (.new .scripted 0 1), .inr (.new (fun _ _ _ => .answer (.ok [])) 1)]

/-- A context that nobody stops. -/
def RunContext.free : RunContext σ := .under ⟨⟨0⟩, none⟩

/-- The second load fails in a forced restart, and the tokenizer has lost its engine. Another restart
makes up for it with the third load. -/
theorem isDependable_applyAll_scripted :
    let start := (Pipeline.scripted, Session.start 0 [true, false, true])
    let acts := [.start .free, .restart .free true, .start .free]
    let restarted := acts ++ [.restart .free false]
    Act.HaveLost start 0 acts ∧ ¬Act.HaveLost start 0 restarted ∧
      (Act.applyAll acts start).1.IsDependable (Act.applyAll acts start).2
          (fun place => Act.HaveLost start place acts) ∧
        (Act.applyAll restarted start).1.IsDependable (Act.applyAll restarted start).2
          (fun place => Act.HaveLost start place restarted) := by
  intro start acts restarted
  have hfresh : ¬start.1.IsBereftAt 0 := by
    rintro ⟨stage, hs, hb⟩
    cases hs
    cases hb.1
  have hdependable : ∀ acts : List (Act (List Bool)),
      (Act.applyAll acts start).1.IsDependable (Act.applyAll acts start).2
        (fun place => Act.HaveLost start place acts) := by
    refine isDependable_applyAll _ _ _ _ fun tokenizer h => ?_
    rcases List.mem_cons.mp h with h | h
    · cases h
      exact Chinese.Tokenizer.holdsLoaded_of_none rfl
    · cases List.mem_singleton.mp h
  refine ⟨?_, ?_, hdependable acts, hdependable restarted⟩
  · exact (Act.isBereftAt_applyAll_iff hfresh acts).mp ⟨_, rfl, rfl, _, rfl, rfl⟩
  · rw [← Act.isBereftAt_applyAll_iff hfresh restarted]
    rintro ⟨stage, hs, -, tokenizer, ht, he⟩
    cases hs
    cases ht
    cases he

/-- After a forced restart whose load fails, starting the pipeline leaves the tokenizer alone, which is
ready without an engine, and a run fails for want of one. The third load would succeed, but neither
of them tries it. -/
theorem not_loaded_after_forced_restart :
    let started := Pipeline.start .free (Pipeline.scripted, Session.start 0 [true, false, true])
    let lost := Pipeline.restart .free true started.2
    let again := Pipeline.start .free lost.2
    let missed := Pipeline.process .free .tokenize .empty again.2
    started.1 = .ok () ∧
      lost.1 = .error (.stage Chinese.Tokenizer.name .start
        (.initialization (.refused "engine refused"))) ∧
      lost.2.1.stages.map Stage.phase = [.ready, .ready] ∧ lost.2.1.IsBereftAt 0 ∧
      lost.2.2.notes = [true] ∧ again.1 = .ok () ∧ again.2.2.notes = [true] ∧
      missed.1 = .error (.stage Chinese.Tokenizer.name .process
        (.initialization .segmenterNotLoaded)) ∧ missed.2.2.notes = [true] := by
  exact ⟨rfl, rfl, rfl, ⟨_, rfl, rfl, _, rfl, rfl⟩, rfl, rfl, rfl, rfl, rfl⟩

end Hanyu
