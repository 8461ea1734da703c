import Hanyu.Proofs.Interruption
import Hanyu.Proofs.Lifecycle

/-!
# Runs with determined results

When the segmenter and the pronouncer answer alike whatever their notes are, the result of a run is
determined, unless the run has to stop.

* `Attempt.Gives`: an attempt has a result, unless it ends in some states.
* `Segmenter.IsPure`, `Pronouncer.IsPure`: code from outside whose answers do not depend on notes.
* `Chinese.Tokenizer.gives_tokenize`, `Chinese.Romanizer.gives_romanize`: the results of tokenizers
  and romanizers that work with them.
* `Stage.processAll_tokenize`, `Stage.processAll_transliterate`, `Stage.processAll_combined`: what
  the modes are for two stages.
* `Pipeline.combined_eq_tokenize_transliterate`: a combined run is a run that tokenizes and one that
  transliterates what came out.
-/

namespace Hanyu

variable {σ ε π α β : Type}

/-! ## Attempts with determined results -/

namespace Attempt

variable {I : σ → Prop}

/-- Unless it ends in `I`, the attempt has this result. -/
def Gives (I : σ → Prop) (x : Attempt ε σ α) (result : Except ε α) : Prop :=
  ∀ s, ¬I (x s).2 → (x s).1 = result

theorem Gives.pure (a : α) : Gives I (Pure.pure a : Attempt ε σ α) (.ok a) := fun _ _ => rfl

theorem Gives.bind {x : Attempt ε σ α} {f : α → Attempt ε σ β} {result : Except ε α}
    {results : α → Except ε β} (hx : Gives I x result) (hf : ∀ a, Gives I (f a) (results a))
    (hm : ∀ a, Maintains I (f a)) : Gives I (x >>= f) (result >>= results) := by
  intro s ht
  change ¬I (andThen x f s).2 at ht
  change (andThen x f s).1 = _
  rw [andThen] at ht ⊢
  have hfirst := hx s
  cases hrun : x s with
  | mk r t =>
    rw [hrun] at ht hfirst
    cases r with
    | error e =>
      rw [← hfirst ht]
      rfl
    | ok a =>
      rw [← hfirst ((hm a).not_before rfl ht)]
      exact hf a t ht

/-- What is done with the result of an attempt is done with the one that is determined. -/
theorem Gives.map {x : Attempt ε σ α} {result : Except ε α} (hx : Gives I x result) (f : α → β) :
    Gives I (x >>= fun a => Pure.pure (f a)) (result.map f) := by
  intro s ht
  rw [bind_pure_apply] at ht ⊢
  rw [hx s ht]

end Attempt

namespace RunContext

variable {context : RunContext σ} {work : α → Attempt Fault (Session σ) β}
  {answer : α → Except Fault β}

theorem gives_check : Attempt.Gives context.cancellation.Stops context.check (.ok ()) := by
  intro s hs
  exact congrArg Prod.fst (check_of_not_stops hs)

/-- When the work on every item has a determined result, working through items has one. -/
theorem gives_workFrom
    (hw : ∀ item, Attempt.Gives context.cancellation.Stops (work item) (answer item))
    (hm : ∀ item, Attempt.Maintains context.cancellation.Stops (work item))
    (interval total place : Nat) (items : List α) :
    Attempt.Gives context.cancellation.Stops (context.workFrom interval total work place items)
      (items.mapM answer) := by
  have hreport : ∀ done total (s : Session σ), context.cancellation.Stops s →
      context.cancellation.Stops (context.reported done total s) :=
    fun _ _ _ hs => context.stops_reported _ _ hs
  induction items generalizing place with
  | nil => exact .pure []
  | cons item items ih =>
    intro s ht
    have hs : ¬context.cancellation.Stops s :=
      (maintains_workFrom hm hreport interval total place (item :: items)).not_before rfl ht
    have hgo : ¬(place % interval = 0 ∧ context.cancellation.Stops s) := fun h => hs h.2
    have hitem := hw item s
    cases hwork : work item s with
    | mk result t =>
      rw [hwork] at hitem
      cases result with
      | error fault =>
        rw [workFrom_cons hgo, hwork] at ht ⊢
        rw [List.mapM_cons, ← hitem ht]
        rfl
      | ok result =>
        rw [snd_workFrom_cons hgo hwork] at ht
        have ht' : ¬context.cancellation.Stops t := fun hstop =>
          (maintains_workFrom hm hreport _ _ _ _).not_before rfl ht (hreport _ _ _ hstop)
        rw [workFrom_cons hgo, hwork, List.mapM_cons, ← hitem ht', ← ih (place + 1) _ ht]
        simp only
        rcases context.workFrom interval total work (place + 1) items _ with
          ⟨_ | results, u⟩ <;> rfl

/-- Showing the end changes no result. -/
theorem gives_workThrough
    (hw : ∀ item, Attempt.Gives context.cancellation.Stops (work item) (answer item))
    (hm : ∀ item, Attempt.Maintains context.cancellation.Stops (work item)) (interval : Nat)
    (items : List α) :
    Attempt.Gives context.cancellation.Stops (context.workThrough interval work items)
      (items.mapM answer) := by
  have hend : ∀ results, Attempt.Gives context.cancellation.Stops
      (context.report items.length items.length >>= fun _ => pure results)
      (.ok results : Except Fault (List β)) := fun _ _ _ => rfl
  have hbind := (gives_workFrom hw hm interval items.length 0 items).bind hend fun _ =>
    Attempt.Maintains.bind (fun _ hs => context.stops_reported _ _ hs) fun _ => .pure _
  rwa [show items.mapM answer >>= Except.ok = items.mapM answer from bind_pure _] at hbind

end RunContext

/-! ## Code from outside that answers alike -/

/-- What a pronouncer answers does not depend on its notes. -/
def Pronouncer.IsPure (pronouncer : Pronouncer σ) : Prop :=
  ∃ table : Text → Style → Bool → Except Fault (List (List Text)),
    ∀ text style all notes, (pronouncer text style all notes).answer = table text style all

/-- What the loaded engines of a segmenter answer depends neither on the engine nor on its notes. -/
def Chinese.Segmenter.IsPure (segmenter : Chinese.Segmenter σ ε) : Prop :=
  ∃ table : Text → Except Fault Segmentation, ∀ engine, segmenter.Loads engine →
    ∀ chunk notes, (segmenter.segment engine chunk notes).answer = table chunk

namespace Pronouncer

variable {I : Session σ → Prop}

/-- What becomes of a token when a pronouncer answers from a table. -/
def annotated (table : Text → Style → Bool → Except Fault (List (List Text))) (style : Style)
    (token : Token) : Except Fault Token :=
  if token.isPronounceable then
    (do
      let display ← table token.surface style true
      let numeric ← table token.surface .tone3 true
      Reading.ofTables token.surface style display numeric).map token.withReading
  else .ok token.romanizedAsIs

theorem gives_annotate {pronouncer : Pronouncer σ}
    {table : Text → Style → Bool → Except Fault (List (List Text))}
    (h : ∀ text style all notes, (pronouncer text style all notes).answer = table text style all)
    (hm : ∀ text style all, Attempt.Maintains I (Session.consult (pronouncer text style all)))
    (style : Style) (token : Token) :
    Attempt.Gives I (pronouncer.annotate style token) (annotated table style token) := by
  have hask : ∀ text style all, Attempt.Gives I (Session.consult (pronouncer text style all))
      (table text style all) := fun text style all s _ => h text style all s.notes
  have hreading : Attempt.Gives I (pronouncer.reading style token.surface) (do
      let display ← table token.surface style true
      let numeric ← table token.surface .tone3 true
      Reading.ofTables token.surface style display numeric) :=
    (hask _ _ _).bind (fun _ => (hask _ _ _).bind (fun _ _ _ => rfl) fun _ _ hs => hs)
      fun _ => (hm _ _ _).bind fun _ _ hs => hs
  unfold annotate annotated
  split
  · exact hreading.map _
  · exact .pure _

end Pronouncer

namespace Chinese

/-! ## Tokenizers and romanizers -/

/-- The tokens of a chunk when the engines answer from a table. -/
def tokenized (table : Text → Except Fault Segmentation) (limit : Nat) (chunk : Text) :
    Except Fault (List Token) :=
  if 0 < limit && limit < chunk.length then
    .error (.configuration (.oversizedChunk chunk.length limit))
  else table chunk >>= Tokenizer.tokensOf chunk

theorem Tokenizer.gives_tokenizeChunk {tokenizer : Tokenizer σ ε} {engine : ε}
    {table : Text → Except Fault Segmentation} {chunk : Text} {I : Session σ → Prop}
    (h : ∀ notes, (tokenizer.segmenter.segment engine chunk notes).answer = table chunk) :
    Attempt.Gives I (tokenizer.tokenizeChunk engine chunk)
      (tokenized table tokenizer.limit chunk) := by
  have hask : Attempt.Gives I (Session.consult (tokenizer.segmenter.segment engine chunk) >>=
      fun segmentation => .ofExcept (tokensOf chunk segmentation))
      (table chunk >>= tokensOf chunk) :=
    Attempt.Gives.bind (fun s _ => h s.notes) (fun _ _ _ => rfl) fun _ _ hs => hs
  unfold tokenizeChunk tokenized
  split
  · exact fun _ _ => rfl
  · exact hask

/-- What a tokenizer makes of a batch when the engines answer from a table. -/
def tokenizedBatch (table : Text → Except Fault Segmentation) (limit : Nat) (batch : Batch) :
    Except Fault Batch :=
  (batch.raw.mapM (tokenized table limit)).map fun pieces =>
    .ofTokens (batch.tokens ++ pieces.flatten)

theorem Tokenizer.gives_tokenize {tokenizer : Tokenizer σ ε} {engine : ε}
    (he : tokenizer.engine = some engine) {table : Text → Except Fault Segmentation}
    (h : ∀ chunk notes, (tokenizer.segmenter.segment engine chunk notes).answer = table chunk)
    (context : RunContext σ) (batch : Batch) :
    Attempt.Gives context.cancellation.Stops (tokenizer.tokenize context batch)
      (tokenizedBatch table tokenizer.limit batch) := by
  intro s ht
  have hs := (tokenizer.maintains_stops context batch).not_before rfl ht
  rw [tokenize_of_engine he hs] at ht ⊢
  rw [tokenizedBatch, ← RunContext.gives_workThrough (fun chunk => gives_tokenizeChunk (h chunk))
    (fun _ => maintains_tokenizeChunk (Session.maintains_stops_consult _)) _ _ s ht]

/-- What a romanizer makes of a batch when the pronouncer answers from a table. -/
def romanizedBatch (table : Text → Style → Bool → Except Fault (List (List Text))) (style : Style)
    (batch : Batch) : Except Fault Batch :=
  (batch.tokens.mapM (Pronouncer.annotated table style)).map fun tokens => { batch with tokens }

theorem Romanizer.gives_romanize {romanizer : Romanizer σ} (hr : romanizer.isReady = true)
    {table : Text → Style → Bool → Except Fault (List (List Text))}
    (h : ∀ text style all notes,
      (romanizer.pronouncer text style all notes).answer = table text style all)
    (context : RunContext σ) (batch : Batch) :
    Attempt.Gives context.cancellation.Stops (romanizer.romanize context batch)
      (romanizedBatch table romanizer.style batch) := by
  intro s ht
  have hs := (romanizer.maintains_stops context batch).not_before rfl ht
  have hm : ∀ text style all, Attempt.Maintains context.cancellation.Stops
      (Session.consult (romanizer.pronouncer text style all)) :=
    fun _ _ _ => Session.maintains_stops_consult _
  rw [romanize_of_isReady hr hs] at ht ⊢
  rw [romanizedBatch, ← RunContext.gives_workThrough
    (fun token => Pronouncer.gives_annotate h hm romanizer.style token)
    (Pronouncer.maintains_annotate hm romanizer.style) _ _ s ht]

/-! ## Stages -/

/-- A romanizer with a pure pronouncer makes the same of a batch in every context. -/
theorem Romanizer.exists_gives_romanize {romanizer : Romanizer σ}
    (h : romanizer.pronouncer.IsPure) (batch : Batch) :
    ∃ result, ∀ context : RunContext σ,
      Attempt.Gives context.cancellation.Stops (romanizer.romanize context batch) result := by
  obtain ⟨table, htable⟩ := h
  cases hready : romanizer.isReady with
  | true => exact ⟨_, fun context => gives_romanize hready htable context batch⟩
  | false =>
    refine ⟨.error (.initialization .transliteratorNotInitialized), fun context => ?_⟩
    rw [romanize_eq, hready]
    have hfail : Attempt.Gives context.cancellation.Stops
        (.fail (.initialization .transliteratorNotInitialized) : Attempt Fault (Session σ) Batch)
        (.error (.initialization .transliteratorNotInitialized)) := fun _ _ => rfl
    exact RunContext.gives_check.bind (fun _ => hfail) fun _ => fun _ hs => hs

end Chinese

/-! ## Runs through a tokenizer and a transliterator -/

namespace Stage

variable [Provider σ π] {context : RunContext σ} {done : UInt64} {batch : Batch}
  {first second : Stage π} {s : Session σ}

theorem processAll_tokenize (hfirst : first.profile.kind = .tokenizer)
    (hsecond : second.profile.kind = .transliterator) :
    processAll context .tokenize done batch [first, second] s =
      match process (context.offset done) batch (first, { s with stageTotal := 0 }) with
      | (result, first, t) => (result, [first, second], t) := by
  rw [processAll, if_pos (by rw [hfirst]; rfl)]
  rcases process (context.offset done) batch (first, { s with stageTotal := 0 }) with
    ⟨_ | out, first', t⟩
  · rfl
  · simp only
    rw [processAll, if_neg (by rw [hsecond]; decide)]
    rfl

theorem processAll_transliterate (hfirst : first.profile.kind = .tokenizer)
    (hsecond : second.profile.kind = .transliterator) :
    processAll context .transliterate done batch [first, second] s =
      match process (context.offset done) batch (second, { s with stageTotal := 0 }) with
      | (result, second, t) => (result, [first, second], t) := by
  rw [processAll, if_neg (by rw [hfirst]; decide), processAll, if_pos (by rw [hsecond]; rfl)]
  rcases process (context.offset done) batch (second, { s with stageTotal := 0 }) with
    ⟨_ | out, second', t⟩ <;> rfl

theorem processAll_combined :
    processAll context .combined done batch [first, second] s =
      match process (context.offset done) batch (first, { s with stageTotal := 0 }) with
      | (.error fault, first, t) => (.error fault, [first, second], t)
      | (.ok out, first, t) =>
        match process (context.offset (done + t.stageTotal)) out
            (second, { t with stageTotal := 0 }) with
        | (result, second, u) => (result, [first, second], u) := by
  rw [processAll, if_pos (Mode.selects_combined _)]
  rcases process (context.offset done) batch (first, { s with stageTotal := 0 }) with
    ⟨_ | out, first', t⟩
  · rfl
  · simp only
    rw [processAll, if_pos (Mode.selects_combined _)]
    rcases process (context.offset (done + t.stageTotal)) out
      (second, { t with stageTotal := 0 }) with ⟨_ | result, second', u⟩ <;> rfl

end Stage

namespace Chinese

theorem kind_profile (stage : Hanyu.Stage (Stage σ ε)) :
    stage.profile.kind = if stage.provider.isLeft then .tokenizer else .transliterator := by
  obtain ⟨provider, phase⟩ := stage
  cases provider <;> rfl

/-- A run makes no romanizer of a tokenizer. -/
theorem isLeft_process (context : RunContext σ) (batch : Batch)
    (stage : Hanyu.Stage (Stage σ ε)) (s : Session σ) :
    (Hanyu.Stage.process context batch (stage, s)).2.1.provider.isLeft =
      stage.provider.isLeft := by
  have hleft := congrArg Sum.isLeft (renewed_process context batch stage s)
  simpa [renewed] using hleft

/-- A romanizer makes the same of a batch wherever its run does not have to stop, and becomes the
same. -/
theorem process_romanizer_congr {romanizer : Romanizer σ} (h : romanizer.pronouncer.IsPure)
    (phase : Phase) (batch : Batch) {context context' : RunContext σ} {s s' : Session σ}
    (ht : ¬context.cancellation.Stops (Hanyu.Stage.process context batch
      ((⟨.inr romanizer, phase⟩ : Hanyu.Stage (Stage σ ε)), s)).2.2)
    (ht' : ¬context'.cancellation.Stops (Hanyu.Stage.process context' batch
      ((⟨.inr romanizer, phase⟩ : Hanyu.Stage (Stage σ ε)), s')).2.2) :
    (Hanyu.Stage.process context batch
        ((⟨.inr romanizer, phase⟩ : Hanyu.Stage (Stage σ ε)), s)).1 =
      (Hanyu.Stage.process context' batch
        ((⟨.inr romanizer, phase⟩ : Hanyu.Stage (Stage σ ε)), s')).1 ∧
    (Hanyu.Stage.process context batch
        ((⟨.inr romanizer, phase⟩ : Hanyu.Stage (Stage σ ε)), s)).2.1 =
      (Hanyu.Stage.process context' batch
        ((⟨.inr romanizer, phase⟩ : Hanyu.Stage (Stage σ ε)), s')).2.1 := by
  rw [process_romanizer_eq] at ht ht' ⊢
  rw [process_romanizer_eq]
  have hpure : (romanizer.readied phase).pronouncer.IsPure := h
  obtain ⟨result, hresult⟩ := Romanizer.exists_gives_romanize hpure batch
  exact ⟨by rw [hresult context s ht, hresult context' s' ht'], rfl⟩

end Chinese

/-! ## A combined run is two runs -/

theorem Pipeline.supports_of_stages {pipeline : Pipeline (Chinese.Stage σ ε)}
    {first second : Stage (Chinese.Stage σ ε)} (h : pipeline.stages = [first, second])
    (hfirst : first.provider.isLeft = true) (hsecond : second.provider.isLeft = false)
    (mode : Mode) : pipeline.supports mode = true := by
  cases mode <;>
    simp [supports, hasKind, h, Chinese.kind_profile, hfirst, hsecond]

section Two

variable {pipeline : Pipeline (Chinese.Stage σ ε)} {first second : Stage (Chinese.Stage σ ε)}
  {context : RunContext σ} {batch : Batch} {s : Session σ}

/-- A run that does not have to stop goes through the two stages. -/
theorem Pipeline.process_of_stages (h : pipeline.stages = [first, second])
    (hfirst : first.provider.isLeft = true) (hsecond : second.provider.isLeft = false)
    (hs : ¬context.cancellation.Stops s) {mode : Mode}
    (hraw : mode = .transliterate → batch.raw = []) :
    process context mode batch (pipeline, s) =
      match Stage.processAll context mode 0 batch [first, second] s with
      | (result, stages, t) => (result, { pipeline with stages }, t) := by
  have hc : (context.check s).1 = .ok () := congrArg Prod.fst (RunContext.check_of_not_stops hs)
  rw [process_eq hc (supports_of_stages h hfirst hsecond mode) hraw, onStages, h]

theorem Pipeline.process_tokenize (h : pipeline.stages = [first, second])
    (hfirst : first.provider.isLeft = true) (hsecond : second.provider.isLeft = false)
    (hs : ¬context.cancellation.Stops s) :
    process context .tokenize batch (pipeline, s) =
      match Stage.process (context.offset 0) batch (first, { s with stageTotal := 0 }) with
      | (result, first, t) => (result, { pipeline with stages := [first, second] }, t) := by
  rw [process_of_stages h hfirst hsecond hs (by simp), Stage.processAll_tokenize
    (by rw [Chinese.kind_profile, hfirst]; rfl) (by rw [Chinese.kind_profile, hsecond]; rfl)]

theorem Pipeline.process_transliterate (h : pipeline.stages = [first, second])
    (hfirst : first.provider.isLeft = true) (hsecond : second.provider.isLeft = false)
    (hs : ¬context.cancellation.Stops s) (hraw : batch.raw = []) :
    process context .transliterate batch (pipeline, s) =
      match Stage.process (context.offset 0) batch (second, { s with stageTotal := 0 }) with
      | (result, second, t) => (result, { pipeline with stages := [first, second] }, t) := by
  rw [process_of_stages h hfirst hsecond hs fun _ => hraw, Stage.processAll_transliterate
    (by rw [Chinese.kind_profile, hfirst]; rfl) (by rw [Chinese.kind_profile, hsecond]; rfl)]

end Two

/-- **A combined run is two runs.** A pipeline of a tokenizer and a romanizer, in any state, makes
the same of a batch in one combined run as when it first tokenizes it and then, after success,
transliterates what came out, and its stages are the same afterwards. The pronouncer has to be pure,
and the runs must not have to stop. -/
theorem Pipeline.combined_eq_tokenize_transliterate {pipeline : Pipeline (Chinese.Stage σ ε)}
    {tokenizer : Chinese.Tokenizer σ ε} {romanizer : Chinese.Romanizer σ} {phase phase' : Phase}
    (h : pipeline.stages = [⟨.inl tokenizer, phase⟩, ⟨.inr romanizer, phase'⟩])
    (hpure : romanizer.pronouncer.IsPure) (context : RunContext σ) (batch : Batch)
    (s : Session σ)
    (hcombined : ¬context.cancellation.Stops
      (process context .combined batch (pipeline, s)).2.2)
    (hsplit : ¬context.cancellation.Stops ((process context .tokenize batch >>= fun out =>
      process context .transliterate out) (pipeline, s)).2.2) :
    (process context .combined batch (pipeline, s)).1 =
        ((process context .tokenize batch >>= fun out =>
          process context .transliterate out) (pipeline, s)).1 ∧
      (process context .combined batch (pipeline, s)).2.1 =
        ((process context .tokenize batch >>= fun out =>
          process context .transliterate out) (pipeline, s)).2.1 := by
  have hs : ¬context.cancellation.Stops s := fun hs =>
    hcombined (Chinese.stops_pipeline_process context .combined batch (pipeline, s) hs)
  have hone : process context .combined batch (pipeline, s) = _ :=
    process_of_stages h rfl rfl hs (by simp)
  have htwo : process context .tokenize batch (pipeline, s) = _ := process_tokenize h rfl rfl hs
  have hleft := Chinese.isLeft_process (context.offset 0) batch
    (⟨.inl tokenizer, phase⟩ : Stage (Chinese.Stage σ ε)) { s with stageTotal := 0 }
  rw [Stage.processAll_combined] at hone
  cases hrun : Stage.process (context.offset 0) batch
      ((⟨.inl tokenizer, phase⟩ : Stage (Chinese.Stage σ ε)), { s with stageTotal := 0 }) with
  | mk result left =>
    obtain ⟨first, t⟩ := left
    rw [hrun] at hone htwo hleft
    cases result with
    | error fault =>
      have hfail : (process context .tokenize batch >>= fun out =>
          process context .transliterate out) (pipeline, s) = _ := Attempt.run_bind_error htwo
      rw [hone, hfail]
      exact ⟨rfl, rfl⟩
    | ok out =>
      -- Both runs come to the romanizer with the same batch, and differ only in what they have
      -- shown as done before.
      have hthree : (process context .tokenize batch >>= fun out =>
          process context .transliterate out) (pipeline, s) = _ := Attempt.run_bind_ok htwo
      have ht : ¬context.cancellation.Stops t := fun ht =>
        hsplit (hthree ▸ Chinese.stops_pipeline_process context .transliterate out _ ht)
      have hfour : process context .transliterate out
          ({ pipeline with stages := [first, ⟨.inr romanizer, phase'⟩] }, t) = _ :=
        process_transliterate rfl hleft rfl ht (Chinese.raw_of_process rfl hrun)
      have hsecond : (process context .tokenize batch >>= fun out =>
          process context .transliterate out) (pipeline, s) = _ := hthree.trans hfour
      rw [hone] at hcombined ⊢
      rw [hsecond] at hsplit ⊢
      obtain ⟨hresult, hstage⟩ :=
        Chinese.process_romanizer_congr hpure phase' out hcombined hsplit
      exact ⟨hresult, congrArg (fun second => { pipeline with stages := [first, second] }) hstage⟩

/-- A word in a raw chunk is tokenized and romanized after a token that was there before, in one run
or in two. -/
theorem Pipeline.combined_eq_tokenize_transliterate_alike :
    let segmenter := Chinese.Segmenter.alike ⟨[['好']], [['n']]⟩
    let pronouncer : Pronouncer Unit := fun _ _ _ => .answer (.ok [["hao3".toList]])
    let pipeline : Pipeline (Chinese.Stage Unit Unit) :=
      .ofProviders [] 0 [.inl (.new segmenter 0 1), .inr (.new pronouncer 1)]
    let context : RunContext Unit := .under ⟨⟨0⟩, none⟩
    let batch : Batch := ⟨[['好']], [.lexical ['a']]⟩
    let reading : Reading :=
      ⟨"hao3".toList, "hao3".toList, [["hao3".toList]], [["hao3".toList]], some 3, some 3, false⟩
    let out : Batch := .ofTokens [(Token.lexical ['a']).romanizedAsIs,
      ((Token.lexical ['好']).tagged ['n']).withReading reading]
    (process context .combined batch (pipeline, Session.start 0 ())).1 = .ok out ∧
      ((process context .tokenize batch >>= fun out => process context .transliterate out)
        (pipeline, Session.start 0 ())).1 = .ok out := by
  intro segmenter pronouncer pipeline context batch reading out
  have hone : (process context .combined batch (pipeline, Session.start 0 ())).1 = .ok out := by
    decide +kernel
  have heq := @combined_eq_tokenize_transliterate _ _ pipeline _ _ _ _ rfl
    ⟨fun _ _ _ => .ok [["hao3".toList]], fun _ _ _ _ => rfl⟩ context batch (Session.start 0 ())
    (by decide +kernel) (by decide +kernel)
  exact ⟨hone, heq.1.symm.trans hone⟩

end Hanyu
