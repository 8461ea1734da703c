import Hanyu.Proofs.Agreement
import Hanyu.Proofs.Chunks
import Hanyu.Proofs.Dependability
import Hanyu.Proofs.Lossless
import Hanyu.Proofs.Opening

/-!
# When a run of an engine fails

An engine for Chinese that works with a lexicon fails for two reasons only, unless somebody stops
it: the lexicon has no words to tokenize with, or there is a text but no tokenizer to take it.

* `Stage.processAll_steady`: a run through stages that fail only when they have to stop does so too.
* `Chinese.Tokenizer.steady_process`, `Chinese.Romanizer.steady_process`: tokenizers and romanizers
  that work with a lexicon are such stages.
* `Engine.runAndClose_of_uses`: closing a tokenizer that works with a lexicon changes no outcome.
* `Engine.transliterate_eq_error_iff`: exactly when and how a run fails.
-/

namespace Hanyu

variable {σ π α : Type}

/-! ## Stages that fail only when they have to stop -/

/-- A failure comes with a cancellation: nothing but having to stop makes the run fail. -/
def RunContext.OnlyStops (context : RunContext σ) (outcome : Except Fault α) (s : Session σ) : Prop :=
  (∃ fault, outcome = .error fault) → context.cancellation.isCancelled s.signals = true

theorem RunContext.OnlyStops.exists_ok {context : RunContext σ} {outcome : Except Fault α}
    {s : Session σ} (h : context.OnlyStops outcome s)
    (hc : context.cancellation.isCancelled s.signals = false) : ∃ a, outcome = .ok a := by
  cases outcome with
  | ok a => exact ⟨a, rfl⟩
  | error fault =>
    rw [h ⟨fault, rfl⟩] at hc
    cases hc

namespace Stage

variable [Provider σ π]

/-- A stage fails only when it has to stop, and what it makes has the property `I`. -/
structure IsSteady (context : RunContext σ) (I : Batch → Prop)
    (outcome : Except Fault Batch × Stage π × Session σ) : Prop where
  onlyStops : context.OnlyStops outcome.1 outcome.2.2
  batch : ∀ out, outcome.1 = .ok out → I out

theorem isSteady_perform {context : RunContext σ} {I : Batch → Prop} {operation : Operation}
    {after : Phase → Phase} {x : Attempt Fault (π × Session σ) Batch} {stage : Stage π}
    {s : Session σ}
    (stops : context.OnlyStops (x (stage.provider, s)).1 (x (stage.provider, s)).2.2)
    (batch : ∀ out, (x (stage.provider, s)).1 = .ok out → I out) :
    IsSteady context I (perform operation after x (stage, s)) := by
  simp only [perform]
  cases hx : x (stage.provider, s) with
  | mk result left =>
    rw [hx] at stops batch
    cases result with
    | ok out =>
      refine ⟨?_, batch⟩
      rintro ⟨_, hf⟩
      cases hf
    | error fault =>
      refine ⟨fun _ => stops ⟨fault, rfl⟩, fun _ ho => ?_⟩
      cases ho

/-- A run ends where a stage fails. -/
theorem processAll_cons_error {context : RunContext σ} {mode : Mode} {done : UInt64} {batch : Batch}
    {stage stage' : Stage π} {stages : List (Stage π)} {s t : Session σ} {fault : Fault}
    (hm : mode.selects stage.profile.kind = true)
    (hp : process (context.offset done) batch (stage, { s with stageTotal := 0 }) =
      (.error fault, stage', t)) :
    processAll context mode done batch (stage :: stages) s =
      (.error fault, stage' :: stages, t) := by
  rw [processAll, if_pos hm, hp]

/-- A run through stages that fail only when they have to stop fails only when it has to stop. -/
theorem processAll_steady {context : RunContext σ} {mode : Mode} {I : Batch → Prop}
    {stages : List (Stage π)}
    (step : ∀ stage ∈ stages, mode.selects stage.profile.kind = true → ∀ done batch s, I batch →
      IsSteady (context.offset done) I (process (context.offset done) batch (stage, s)))
    {done : UInt64} {batch : Batch} {s : Session σ} (hbatch : I batch) :
    context.OnlyStops (processAll context mode done batch stages s).1
      (processAll context mode done batch stages s).2.2 := by
  induction stages generalizing done batch s with
  | nil =>
    rintro ⟨fault, hf⟩
    cases hf
  | cons stage stages ih =>
    obtain ⟨hstage, hrest⟩ := List.forall_mem_cons.mp step
    rw [processAll]
    split
    · rename_i hsel
      have hs := hstage hsel done batch { s with stageTotal := 0 } hbatch
      split
      · rename_i fault stage' t hp
        rw [hp] at hs
        exact hs.onlyStops
      · rename_i out stage' t hp
        rw [hp] at hs
        exact ih hrest (hs.batch out rfl)
    · exact ih hrest hbatch

end Stage

/-! ## Stages that work with a lexicon -/

/-- The reading that a lexicon has for a surface, in a style. Characters that it does not know have
no candidates. -/
def Lexicon.reading (lexicon : Lexicon) (style : Style) (surface : Text) : Reading :=
  let display := lexicon.pronounce surface style true
  let numeric := lexicon.pronounce surface .tone3 true
  let tone := Reading.toneOf surface (Reading.joinFirsts numeric)
  ⟨Reading.joinFirsts display, Reading.joinFirsts numeric, display, numeric, tone, tone, false⟩

/-- What becomes of a token when it is romanized with a lexicon, in a style. -/
def Lexicon.romanized (lexicon : Lexicon) (style : Style) (token : Token) : Token :=
  if token.isPronounceable then token.withReading (lexicon.reading style token.surface)
  else token.romanizedAsIs

/-- The tables of a lexicon have one list for every character of every text. -/
theorem Lexicon.ofTables_pronounce (lexicon : Lexicon) (style : Style) (surface : Text) :
    Reading.ofTables surface style (lexicon.pronounce surface style true)
      (lexicon.pronounce surface .tone3 true) = .ok (lexicon.reading style surface) := by
  have hl : ∀ style, (lexicon.pronounce surface style true).length = surface.length :=
    fun style => List.length_map _
  rw [Reading.ofTables, if_neg (by simp [hl]), if_neg (by simp [hl])]
  rfl

namespace Chinese

variable {lexicon : Lexicon}

/-- A tokenizer that works with a sound lexicon fails only when it has to stop, at chunks within its
limit. -/
theorem Tokenizer.onlyStops_tokenize (hs : lexicon.IsSound)
    {tokenizer : Tokenizer σ LexiconSegmenter} (hseg : tokenizer.segmenter = .ofLexicon lexicon)
    (he : tokenizer.engine = some ⟨lexicon, true⟩) {context : RunContext σ} {batch : Batch}
    (hb : ∀ chunk ∈ batch.raw, 0 < tokenizer.limit → chunk.length ≤ tokenizer.limit)
    (s : Session σ) :
    context.OnlyStops (tokenize context batch tokenizer s).1
      (tokenize context batch tokenizer s).2 := by
  rintro ⟨fault, hf⟩
  rcases tokenize_error he (Prod.ext hf rfl) with hstop | ⟨chunk, hc, hfault⟩
  · exact RunContext.isCancelled_of_check hstop
  · have ha : ∀ notes, (tokenizer.segmenter.segment ⟨lexicon, true⟩ chunk notes).answer =
        .ok (lexicon.segment chunk) := by
      intro notes
      rw [hseg]
      rfl
    cases hfault with
    | refused hpos hlt => exact absurd (hb chunk hc hpos) (by omega)
    | unanswered hn =>
      rw [ha] at hn
      cases hn
    | inconsistent hn ht =>
      rw [ha] at hn
      cases hn
      rw [tokensOf_segment hs] at ht
      cases ht

/-- A romanizer that works with a lexicon makes the same of a token whatever happens around it. -/
theorem annotate_ofLexicon (lexicon : Lexicon) (style : Style) (token : Token) (s : Session σ) :
    (Pronouncer.ofLexicon lexicon).annotate style token s =
      (.ok (lexicon.romanized style token), s) := by
  unfold Pronouncer.annotate Lexicon.romanized
  split
  · have hr : (Pronouncer.ofLexicon lexicon).reading style token.surface s =
        (.ok (lexicon.reading style token.surface), s) :=
      congrArg (·, s) (lexicon.ofTables_pronounce style token.surface)
    exact (Attempt.run_bind_ok hr).trans rfl
  · rfl

/-- A romanizer that works with a lexicon fails only when it has to stop. -/
theorem Romanizer.onlyStops_romanize {romanizer : Romanizer σ}
    (hp : romanizer.pronouncer = .ofLexicon lexicon) (hr : romanizer.isReady = true)
    (context : RunContext σ) (batch : Batch) (s : Session σ) :
    context.OnlyStops (romanize context batch romanizer s).1
      (romanize context batch romanizer s).2 := by
  rintro ⟨fault, hf⟩
  have h : romanize context batch romanizer s = (.error fault, _) := Prod.ext hf rfl
  rcases Attempt.bind_error h with h₁ | ⟨_, s₁, -, h₁⟩
  · exact RunContext.isCancelled_of_check (RunContext.stopped_of_check h₁)
  · rw [hr] at h₁
    rcases Attempt.bind_error h₁ with h₂ | ⟨_, s₂, -, h₂⟩
    · refine RunContext.workThrough_error
        (P := fun _ t => context.cancellation.isCancelled t.signals = true) ?_ ?_ h₂
      · exact fun fault t hf => RunContext.isCancelled_of_check hf
      · intro token _ s t fault ha
        rw [hp, annotate_ofLexicon] at ha
        cases ha
    · cases h₂

/-- The chunks of a batch are within a limit, if there is one. -/
def IsWithin (limit : Nat) (batch : Batch) : Prop :=
  ∀ chunk ∈ batch.raw, 0 < limit → chunk.length ≤ limit

theorem opened_ofLexicon (hw : lexicon.words ≠ []) (s : Session σ) :
    (Segmenter.ofLexicon lexicon).opened s = (.ok ⟨lexicon, true⟩, s) := by
  have hl : (LexiconSegmenter.new lexicon).load = .ok ⟨lexicon, true⟩ := by
    rw [LexiconSegmenter.load, if_neg]
    · rfl
    · simpa [LexiconSegmenter.new] using hw
  exact congrArg (·, s) hl

theorem opened_ofLexicon_of_nil (hw : lexicon.words = []) (s : Session σ) :
    (Segmenter.ofLexicon lexicon).opened s = (.error (.initialization .noWords), s) := by
  have hl : (LexiconSegmenter.new lexicon).load = .error (.initialization .noWords) := by
    rw [LexiconSegmenter.load, if_pos]
    simpa [LexiconSegmenter.new] using hw
  exact congrArg (·, s) hl

/-- A tokenizer that holds an engine with a sound lexicon. -/
theorem Tokenizer.steady_perform (hs : lexicon.IsSound) {tokenizer : Tokenizer σ LexiconSegmenter}
    (hseg : tokenizer.segmenter = .ofLexicon lexicon)
    (he : tokenizer.engine = some ⟨lexicon, true⟩) (phase : Phase) (context : RunContext σ)
    {batch : Batch} (hb : IsWithin tokenizer.limit batch) (s : Session σ) :
    Hanyu.Stage.IsSteady context (IsWithin tokenizer.limit)
      (Hanyu.Stage.perform .process id (Provider.process context batch)
        (⟨(.inl tokenizer : Stage σ LexiconSegmenter), phase⟩, s)) := by
  refine Hanyu.Stage.isSteady_perform (tokenizer.onlyStops_tokenize hs hseg he hb s) ?_
  intro out ho chunk hc
  have ht : tokenizer.tokenize context batch s = (.ok out, _) := Prod.ext ho rfl
  rw [(tokenize_ok ht).2] at hc
  cases hc

/-- A new tokenizer that works with a lexicon which has words. -/
theorem Tokenizer.steady_process (hs : lexicon.IsSound) (hw : lexicon.words ≠ []) {limit : Nat}
    (interval : Nat) (context : RunContext σ) {batch : Batch} (hb : IsWithin limit batch)
    (s : Session σ) :
    Hanyu.Stage.IsSteady context (IsWithin limit) (Hanyu.Stage.process context batch
      (.ofProvider (.inl (.new (.ofLexicon lexicon) limit interval) : Stage σ LexiconSegmenter),
        s)) := by
  rw [Hanyu.Stage.ofProvider,
    Hanyu.Stage.process_of_loaded rfl (by decide) (opened_ofLexicon hw s)]
  exact @steady_perform σ lexicon hs
    { new (.ofLexicon lexicon) limit interval with engine := some ⟨lexicon, true⟩ } rfl rfl .ready
    context batch hb s

/-- A romanizer that works with a lexicon, once it is ready. -/
theorem Romanizer.steady_perform {romanizer : Romanizer σ}
    (hp : romanizer.pronouncer = .ofLexicon lexicon) (hr : romanizer.isReady = true)
    (phase : Phase) {limit : Nat} (context : RunContext σ) {batch : Batch}
    (hb : IsWithin limit batch) (s : Session σ) :
    Hanyu.Stage.IsSteady context (IsWithin limit)
      (Hanyu.Stage.perform .process id (Provider.process context batch)
        (⟨(.inr romanizer : Stage σ LexiconSegmenter), phase⟩, s)) := by
  refine Hanyu.Stage.isSteady_perform (romanizer.onlyStops_romanize hp hr context batch s) ?_
  intro out ho chunk hc
  have ht : romanizer.romanize context batch s = (.ok out, _) := Prod.ext ho rfl
  rw [(romanize_ok ht).2] at hc
  exact hb chunk hc

/-- A new romanizer that works with a lexicon. -/
theorem Romanizer.steady_process {romanizer : Romanizer σ}
    (hp : romanizer.pronouncer = .ofLexicon lexicon) {limit : Nat} (context : RunContext σ)
    {batch : Batch} (hb : IsWithin limit batch) (s : Session σ) :
    Hanyu.Stage.IsSteady context (IsWithin limit) (Hanyu.Stage.process context batch
      (.ofProvider (.inr romanizer : Stage σ LexiconSegmenter), s)) :=
  @steady_perform σ lexicon { romanizer with isReady := true } hp rfl .ready limit context batch hb s

/-! ## Closing -/

/-- A stage works with a segmenter, if it is a tokenizer. -/
def Uses (segmenter : Segmenter σ LexiconSegmenter) :
    Hanyu.Stage (Stage σ LexiconSegmenter) → Prop :=
  Hanyu.Stage.OfTokenizer fun tokenizer _ => tokenizer.segmenter = segmenter

theorem isStable_uses (segmenter : Segmenter σ LexiconSegmenter) :
    Tokenizer.IsStable fun tokenizer _ => tokenizer.segmenter = segmenter where
  load _ _ _ _ _ hs h := (Tokenizer.loadEngine_ok h).1.trans hs
  drop tokenizer _ s hs := by rw [Tokenizer.dropEngine_fst, hs]

/-- Unloading an engine with a lexicon does nothing to the session. -/
theorem dropEngine_ofLexicon {tokenizer : Tokenizer σ LexiconSegmenter}
    (hseg : tokenizer.segmenter = .ofLexicon lexicon) (s : Session σ) :
    tokenizer.dropEngine s = ({ tokenizer with engine := none }, s) := by
  refine Prod.ext (tokenizer.dropEngine_fst s) ?_
  unfold Tokenizer.dropEngine
  split
  · rfl
  · rw [hseg]
    rfl

theorem release_of_uses {stage : Hanyu.Stage (Stage σ LexiconSegmenter)}
    (hs : Uses (.ofLexicon lexicon) stage) (s : Session σ) :
    ∃ stage', Hanyu.Stage.release (stage, s) = (.ok (), stage', s) ∧
      Uses (.ofLexicon lexicon) stage' := by
  simp only [Hanyu.Stage.release]
  split
  · exact ⟨stage, rfl, hs⟩
  · obtain ⟨provider, phase⟩ := stage
    cases provider with
    | inr romanizer =>
      refine ⟨_, rfl, fun _ h => ?_⟩
      cases h
    | inl tokenizer =>
      have hd := dropEngine_ofLexicon (hs tokenizer rfl) s
      have hr : (Provider.release : Attempt Fault (Stage σ LexiconSegmenter × Session σ) Unit)
          (.inl tokenizer, s) = (.ok (), .inl { tokenizer with engine := none }, s) :=
        Attempt.either_inl_eq_iff.mpr ⟨_, rfl, congrArg (Except.ok (), ·) hd⟩
      refine ⟨⟨.inl { tokenizer with engine := none }, .released⟩,
        by simp only [Hanyu.Stage.perform, hr], fun _ h => ?_⟩
      cases h
      exact hs tokenizer rfl

/-- Closing succeeds without a trace in the session. -/
theorem releaseAll_of_uses {stages : List (Hanyu.Stage (Stage σ LexiconSegmenter))}
    (hs : ∀ stage ∈ stages, Uses (.ofLexicon lexicon) stage) (s : Session σ) :
    ∃ stages', Hanyu.Stage.releaseAll stages s = (.ok (), stages', s) ∧
      ∀ stage ∈ stages', Uses (.ofLexicon lexicon) stage := by
  induction stages with
  | nil => exact ⟨[], rfl, fun _ h => nomatch h⟩
  | cons stage stages ih =>
    obtain ⟨hstage, hrest⟩ := List.forall_mem_cons.mp hs
    obtain ⟨stage', hr, hu⟩ := release_of_uses hstage s
    obtain ⟨stages', ha, hus⟩ := ih hrest
    refine ⟨stage' :: stages', ?_, List.forall_mem_cons.mpr ⟨hu, hus⟩⟩
    rw [Hanyu.Stage.releaseAll, hr]
    simp only [ha]
    rfl

theorem discard_of_uses {stages : List (Hanyu.Stage (Stage σ LexiconSegmenter))}
    (hs : ∀ stage ∈ stages, Uses (.ofLexicon lexicon) stage) (s : Session σ) :
    stages.foldl (fun session stage => Provider.discard stage.provider session) s = s := by
  induction stages with
  | nil => rfl
  | cons stage stages ih =>
    obtain ⟨hstage, hrest⟩ := List.forall_mem_cons.mp hs
    have hd : Provider.discard stage.provider s = s := by
      obtain ⟨provider, phase⟩ := stage
      cases provider with
      | inr romanizer => rfl
      | inl tokenizer => exact congrArg Prod.snd (dropEngine_ofLexicon (hstage tokenizer rfl) s)
    rw [List.foldl_cons, hd]
    exact ih hrest

theorem forall_uses_process {pipeline : Pipeline (Stage σ LexiconSegmenter)}
    (hs : ∀ stage ∈ pipeline.stages, Uses (.ofLexicon lexicon) stage) (context : RunContext σ)
    (mode : Mode) (batch : Batch) (s : Session σ) :
    ∀ stage ∈ (Pipeline.process context mode batch (pipeline, s)).2.1.stages,
      Uses (.ofLexicon lexicon) stage :=
  Act.ofTokenizer_apply (isStable_uses (.ofLexicon lexicon))
    (fun _ h => nomatch (h : Act.process context mode batch = _)) (pipeline, s) hs

end Chinese

/-- Closing a pipeline that works with a lexicon changes neither the outcome nor the session. -/
theorem Engine.runAndClose_of_uses {lexicon : Lexicon}
    {pipeline : Pipeline (Chinese.Stage σ LexiconSegmenter)}
    (hs : ∀ stage ∈ pipeline.stages, Chinese.Uses (.ofLexicon lexicon) stage)
    (context : RunContext σ) (mode : Mode) (text : Text) (s : Session σ) :
    runAndClose context mode text pipeline s =
      ((Pipeline.processText context mode text (pipeline, s)).1,
        (Pipeline.processText context mode text (pipeline, s)).2.2) := by
  have hu := Chinese.forall_uses_process hs context mode
    (.ofChunks (Chunk.split text pipeline.maxChunkLength)) s
  change ∀ stage ∈ (Pipeline.processText context mode text (pipeline, s)).2.1.stages, _ at hu
  unfold runAndClose
  cases hp : Pipeline.processText context mode text (pipeline, s) with
  | mk result left =>
    obtain ⟨after, t⟩ := left
    rw [hp] at hu
    obtain ⟨stages', hr, hus⟩ := Chinese.releaseAll_of_uses hu t
    have hclose : Pipeline.close (after, t) = (.ok (), { after with stages := stages' }, t) := by
      simp only [Pipeline.close, Pipeline.onStages, hr]
    simp only [hclose, Pipeline.discard, Chinese.discard_of_uses hus]
    cases result <;> rfl

/-! ## Runs of a new pipeline -/

/-- A run that does not have to stop in the end did not have to stop in the beginning. -/
theorem Pipeline.running_of_process [Provider σ π] {context : RunContext σ} {mode : Mode}
    {batch : Batch} {pipeline : Pipeline π} {s : Session σ}
    (hc : context.cancellation.isCancelled (process context mode batch (pipeline, s)).2.2.signals =
      false) : (context.check s).1 = .ok () := by
  cases hk : (context.check s).1 with
  | ok _ => rfl
  | error fault =>
    rw [process, check_bind, hk] at hc
    rw [RunContext.isCancelled_of_check hk] at hc
    cases hc

/-- Text that no tokenizer has seen is refused before anything is done. -/
theorem Pipeline.process_eq_of_raw [Provider σ π] {context : RunContext σ} {batch : Batch}
    {pipeline : Pipeline π} {s : Session σ} (hc : (context.check s).1 = .ok ())
    (hs : pipeline.supports .transliterate = true) (hr : batch.raw ≠ []) :
    process context .transliterate batch (pipeline, s) =
      (.error (.configuration .rawChunks), pipeline, s) := by
  have ha : (admits .transliterate batch).run (pipeline, s) =
      (.error (.configuration .rawChunks), pipeline, s) := by
    simp [Attempt.run, admits, hs, hr]
  rw [process, check_bind, hc]
  exact Attempt.run_bind_error ha

theorem Pipeline.process_of_raw [Provider σ π] {context : RunContext σ} {batch : Batch}
    {pipeline : Pipeline π} {s : Session σ} (hc : (context.check s).1 = .ok ())
    (hs : pipeline.supports .transliterate = true) (hr : batch.raw ≠ []) :
    (process context .transliterate batch (pipeline, s)).1 =
      .error (.configuration .rawChunks) :=
  congrArg Prod.fst (process_eq_of_raw hc hs hr)

namespace Chinese

variable {lexicon : Lexicon}

section Runs

variable {settings : Settings} {style : Style} {context : RunContext σ} {mode : Mode}
  {batch : Batch} {s : Session σ}

/-- A new pipeline that works with a lexicon. -/
abbrev lexiconPipeline (settings : Settings) (lexicon : Lexicon) (style : Style) :
    Pipeline (Stage σ LexiconSegmenter) :=
  pipeline settings (.ofLexicon lexicon) (.ofLexicon lexicon) style

theorem supports_lexiconPipeline (settings : Settings) (lexicon : Lexicon) (style : Style)
    (mode : Mode) :
    (lexiconPipeline settings lexicon style : Pipeline (Stage σ LexiconSegmenter)).supports mode =
      true := by
  cases mode <;> rfl

theorem stages_lexiconPipeline (settings : Settings) (lexicon : Lexicon) (style : Style) :
    (lexiconPipeline settings lexicon style : Pipeline (Stage σ LexiconSegmenter)).stages =
      [.ofProvider (.inl (.new (.ofLexicon lexicon) settings.tokenizerLimit settings.checkInterval)),
        .ofProvider (.inr { Romanizer.new (.ofLexicon lexicon) settings.checkInterval with style })] :=
  rfl

theorem uses_of_mem_lexiconPipeline (settings : Settings) (lexicon : Lexicon) (style : Style) :
    ∀ stage ∈ (lexiconPipeline settings lexicon style : Pipeline (Stage σ _)).stages,
      Uses (.ofLexicon lexicon) stage := by
  intro stage hm tokenizer ht
  rcases List.mem_cons.mp hm with rfl | hm
  · cases ht
    rfl
  · rw [List.mem_singleton.mp hm] at ht
    cases ht

/-- Without words the tokenizer cannot be started. -/
theorem process_of_noWords (hc : (context.check s).1 = .ok ()) (hm : mode ≠ .transliterate)
    (hw : lexicon.words = []) :
    (Pipeline.process context mode batch (lexiconPipeline settings lexicon style, s)).1 =
      .error (.stage Tokenizer.name .start (.initialization .noWords)) := by
  have hsel : mode.selects .tokenizer = true := by
    cases mode with
    | transliterate => exact absurd rfl hm
    | _ => rfl
  have hp := @Hanyu.Stage.process_of_refused σ LexiconSegmenter (Romanizer σ) _
    (.new (.ofLexicon lexicon) settings.tokenizerLimit settings.checkInterval) .fresh rfl (by decide)
    _ _ _ (opened_ofLexicon_of_nil hw { s with stageTotal := 0 }) (context.offset 0) batch
  rw [Pipeline.process_eq hc (supports_lexiconPipeline settings lexicon style mode)
    (fun h => absurd h hm)]
  simp only [Pipeline.onStages, stages_lexiconPipeline]
  exact congrArg Prod.fst (Hanyu.Stage.processAll_cons_error hsel hp)

/-- With words, and without chunks that nothing tokenizes, the run fails only when it has to stop. -/
theorem onlyStops_process (hs : lexicon.IsSound) (hw : mode ≠ .transliterate → lexicon.words ≠ [])
    (hr : mode = .transliterate → batch.raw = []) (hb : IsWithin settings.tokenizerLimit batch) :
    context.OnlyStops
      (Pipeline.process context mode batch (lexiconPipeline settings lexicon style, s)).1
      (Pipeline.process context mode batch (lexiconPipeline settings lexicon style, s)).2.2 := by
  cases hc : (context.check s).1 with
  | error fault =>
    rw [Pipeline.process, Pipeline.check_bind, hc]
    exact fun _ => RunContext.isCancelled_of_check hc
  | ok _ =>
    rw [Pipeline.process_eq hc (supports_lexiconPipeline settings lexicon style mode) hr]
    simp only [Pipeline.onStages, stages_lexiconPipeline]
    refine Hanyu.Stage.processAll_steady ?_ hb
    intro stage hm hsel done batch s hb
    rcases List.mem_cons.mp hm with rfl | hm
    · refine Tokenizer.steady_process hs (hw ?_) _ (context.offset done) hb s
      rintro rfl
      cases hsel
    · rw [List.mem_singleton.mp hm]
      have hp : ({ Romanizer.new (.ofLexicon lexicon) settings.checkInterval with style } :
          Romanizer σ).pronouncer = .ofLexicon lexicon := rfl
      exact Romanizer.steady_process hp (context.offset done) hb s

end Runs

end Chinese

/-! ## Runs of an engine -/

/-- The chunks of a text, as a new pipeline that works with a lexicon cuts it. -/
def Chinese.lexiconBatch (settings : Settings) (text : Text) : Batch :=
  .ofChunks (Chunk.split text
    (Chinese.lexiconPipeline settings .empty .tone : Pipeline (Chinese.Stage Unit _)).maxChunkLength)

/-- A run of an engine that has opened a new pipeline is a run of that pipeline. -/
theorem Engine.transliterate_of_opened {settings : Settings} {lexicon : Lexicon} {style : Style}
    {engine : Engine (Chinese.Stage σ LexiconSegmenter)} {scheme : Option Text} {s : Session σ}
    (ho : (engine.openPipeline Chinese.language scheme).run s =
      (.ok (Chinese.lexiconPipeline settings lexicon style), s))
    (context : RunContext σ) (mode : Mode) (text : Text) :
    (engine.transliterate context Chinese.language scheme mode text).run s =
      (((Pipeline.process context mode (Chinese.lexiconBatch settings text)
          (Chinese.lexiconPipeline settings lexicon style, s)).1).mapError .pipeline,
        (Pipeline.process context mode (Chinese.lexiconBatch settings text)
          (Chinese.lexiconPipeline settings lexicon style, s)).2.2) := by
  have hrun := Engine.runAndClose_of_uses
    (Chinese.uses_of_mem_lexiconPipeline settings lexicon style) context mode text s
  rw [Engine.transliterate, Attempt.run_bind_ok ho]
  simp only [Attempt.run, Attempt.mapFailure, hrun]
  rfl

/-- A run of an engine that works with a lexicon is a run of a new pipeline. -/
theorem Engine.transliterate_ofLexicon {settings : Settings} {lexicon : Lexicon}
    {engine : Engine (Chinese.Stage σ LexiconSegmenter)}
    (he : Engine.ofLexicon settings lexicon = .ok engine) (context : RunContext σ)
    (scheme : Option Text) (mode : Mode) (text : Text) (s : Session σ) :
    ∃ style batch, (batch.raw = [] ↔ text = []) ∧ Chinese.IsWithin settings.tokenizerLimit batch ∧
      (engine.transliterate context Chinese.language scheme mode text).run s =
        (((Pipeline.process context mode batch
            (Chinese.lexiconPipeline settings lexicon style, s)).1).mapError .pipeline,
          (Pipeline.process context mode batch
            (Chinese.lexiconPipeline settings lexicon style, s)).2.2) := by
  obtain ⟨style, ho⟩ := Engine.openPipeline_ofLexicon he scheme s
  refine ⟨style, Chinese.lexiconBatch settings text, Chunk.split_eq_nil_iff, ?_,
    Engine.transliterate_of_opened ho context mode text⟩
  intro chunk hc hl
  have hm : .ofProvider (.inl (.new (.ofLexicon lexicon) settings.tokenizerLimit
      settings.checkInterval)) ∈ (Chinese.lexiconPipeline settings lexicon style :
        Pipeline (Chinese.Stage σ LexiconSegmenter)).stages := List.mem_cons_self
  exact Pipeline.length_le_of_mem_split hm hl hc

/-- **When a run fails.** An engine that works with a lexicon which was read, or with the empty one,
fails in a run that nobody stops for two reasons only: the lexicon has no words to tokenize with, or
there is a text but no tokenizer to take it. In every other case it has a result. -/
theorem Engine.transliterate_eq_error_iff {settings : Settings} {lexicon : Lexicon}
    {engine : Engine (Chinese.Stage σ LexiconSegmenter)}
    (hl : lexicon = .empty ∨ ∃ document, Lexicon.read document = .ok lexicon)
    (he : Engine.ofLexicon settings lexicon = .ok engine) (context : RunContext σ)
    (scheme : Option Text) (mode : Mode) (text : Text) (s : Session σ)
    (hc : context.cancellation.isCancelled ((engine.transliterate context Chinese.language scheme
      mode text).run s).2.signals = false) :
    (∀ failure,
        ((engine.transliterate context Chinese.language scheme mode text).run s).1 = .error failure ↔
          (mode ≠ .transliterate ∧ lexicon.words = [] ∧ failure = .pipeline
            (.stage Chinese.Tokenizer.name .start (.initialization .noWords))) ∨
          (mode = .transliterate ∧ text ≠ [] ∧ failure = .pipeline (.configuration .rawChunks))) ∧
      ((∃ batch,
          ((engine.transliterate context Chinese.language scheme mode text).run s).1 = .ok batch) ↔
        (mode ≠ .transliterate → lexicon.words ≠ []) ∧ (mode = .transliterate → text = [])) := by
  have hs : lexicon.IsSound := by
    rcases hl with rfl | ⟨document, hd⟩
    · exact ⟨fun _ h => (nomatch h), fun _ h => (nomatch h)⟩
    · exact Lexicon.read_isSound hd
  obtain ⟨style, batch, hraw, hwithin, hrun⟩ :=
    Engine.transliterate_ofLexicon he context scheme mode text s
  rw [hrun] at hc ⊢
  have hstart := Pipeline.running_of_process hc
  have hfailed : ∀ fault, (.error fault : Except Fault Batch).mapError Failure.pipeline =
      .error (.pipeline fault) := fun _ => rfl
  by_cases hwords : mode ≠ .transliterate ∧ lexicon.words = []
  · rw [Chinese.process_of_noWords hstart hwords.1 hwords.2, hfailed]
    grind
  by_cases htext : mode = .transliterate ∧ text ≠ []
  · obtain ⟨rfl, ht⟩ := htext
    rw [Pipeline.process_of_raw hstart (Chinese.supports_lexiconPipeline ..) (mt hraw.mp ht), hfailed]
    grind
  have hstops : context.OnlyStops
      (Pipeline.process context mode batch (Chinese.lexiconPipeline settings lexicon style, s)).1
      (Pipeline.process context mode batch (Chinese.lexiconPipeline settings lexicon style,
        s)).2.2 := by
    refine Chinese.onlyStops_process hs (fun hm hw => hwords ⟨hm, hw⟩) (fun hm => ?_) hwithin
    exact hraw.mpr (Classical.byContradiction fun ht => htext ⟨hm, ht⟩)
  obtain ⟨out, ho⟩ := hstops.exists_ok hc
  have hok : (.ok out : Except Fault Batch).mapError Failure.pipeline = .ok out := rfl
  rw [ho, hok]
  grind

/-- With a word a text is tokenized, but not romanized as it is; without words not even the first. -/
theorem Engine.transliterate_eq_error_iff_hello :
    ∃ (lexicon : Lexicon) (engine bare : Engine (Chinese.Stage Unit LexiconSegmenter)),
      Lexicon.read "[words]\n\"你好\" = \"l\"\n".toList = .ok lexicon ∧
        Engine.ofLexicon .standard lexicon = .ok engine ∧
          Engine.ofLexicon .standard .empty = .ok bare ∧
      (∃ batch, ((engine.transliterate .free Chinese.language (some " PINYIN ".toList) .combined
        "你好，x".toList).run (Session.start 0 ())).1 = .ok batch) ∧
      ((engine.transliterate .free Chinese.language none .transliterate "你好".toList).run
        (Session.start 0 ())).1 = .error (.pipeline (.configuration .rawChunks)) ∧
      ((bare.transliterate .free Chinese.language (some "?".toList) .tokenize []).run
        (Session.start 0 ())).1 = .error (.pipeline
          (.stage Chinese.Tokenizer.name .start (.initialization .noWords))) := by
  let lexicon : Lexicon := ⟨[(['你', '好'], ['l'])], [], 2⟩
  let engine (lexicon : Lexicon) : Engine (Chinese.Stage Unit LexiconSegmenter) :=
    ⟨Chinese.catalog .standard (.ofLexicon lexicon) (.ofLexicon lexicon), .standard⟩
  have hread : Lexicon.read "[words]\n\"你好\" = \"l\"\n".toList = .ok lexicon := by
    decide +kernel
  have hmade : ∀ lexicon, Engine.ofLexicon .standard lexicon = .ok (engine lexicon) := fun _ => rfl
  refine ⟨lexicon, engine lexicon, engine .empty, hread, hmade _, hmade _, ?_, ?_, ?_⟩
  · exact (transliterate_eq_error_iff (.inr ⟨_, hread⟩) (hmade lexicon) .free _ .combined _ _
      (by decide +kernel)).2.mpr ⟨fun _ => List.cons_ne_nil _ _, fun h => nomatch h⟩
  · exact ((transliterate_eq_error_iff (.inr ⟨_, hread⟩) (hmade lexicon) .free none .transliterate
      _ _ (by decide +kernel)).1 _).mpr (.inr ⟨rfl, by decide, rfl⟩)
  · exact ((transliterate_eq_error_iff (.inl rfl) (hmade .empty) .free _ .tokenize [] _
      (by decide +kernel)).1 _).mpr (.inl ⟨by decide, rfl, rfl⟩)

end Hanyu
