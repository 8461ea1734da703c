import Hanyu.Proofs.Determined
import Hanyu.Proofs.Outcome

/-!
# The style of a run

A run that is asked for no scheme has the style that a romanizer is made with, and one that is asked
for a scheme which does not exist has that of the default scheme. With a lexicon the style of a run
shows in the readings of its tokens and nowhere else.

* `RunContext.workThrough_pure`: work that only computes is a map over what is worked through.
* `Chinese.Romanizer.exists_romanize_restyled`: a romanizer does the same in every style, up to such
  a map.
* `Chinese.endAlike_combined`, `Chinese.endAlike_of_ne_combined`: so do the runs of a pipeline.
* `Engine.transliterate_eq_iff`: exactly when two runs in different styles have one result.
* `Engine.agrees_without_scheme_iff`: exactly when a run without a scheme has the result of one with
  the default scheme.
-/

namespace Hanyu

variable {σ ε π α β : Type}

/-! ## Tokens in different styles -/

namespace Lexicon

variable {lexicon : Lexicon} {a b : Style} {token : Token}

/-- Two styles write all readings of a token alike, if it is one to be pronounced. -/
def WritesAlike (lexicon : Lexicon) (a b : Style) (token : Token) : Prop :=
  token.isPronounceable = true →
    ∀ c ∈ token.surface, ∀ reading ∈ lexicon.readingsOf c, a.render reading = b.render reading

@[simp] theorem surface_romanized (style : Style) :
    (lexicon.romanized style token).surface = token.surface := by
  unfold romanized
  split <;> rfl

/-- A token that was pronounced can be pronounced again. -/
@[simp] theorem isPronounceable_romanized (style : Style) :
    (lexicon.romanized style token).isPronounceable = token.isPronounceable := by
  unfold romanized
  split
  · rename_i h
    rw [h]
    simp only [Token.isPronounceable, Bool.and_eq_true] at h ⊢
    exact ⟨h.1, rfl⟩
  · rfl

theorem writesAlike_romanized (style : Style) :
    lexicon.WritesAlike a b (lexicon.romanized style token) ↔ lexicon.WritesAlike a b token := by
  simp [WritesAlike]

theorem pronounce_eq_iff {surface : Text} :
    lexicon.pronounce surface a true = lexicon.pronounce surface b true ↔
      ∀ c ∈ surface, ∀ reading ∈ lexicon.readingsOf c, a.render reading = b.render reading := by
  simp only [pronounce, if_true, List.map_inj_left]

/-- A token becomes the same in two styles exactly when they write its readings alike. -/
theorem romanized_eq_iff :
    lexicon.romanized a token = lexicon.romanized b token ↔ lexicon.WritesAlike a b token := by
  unfold romanized WritesAlike
  by_cases h : token.isPronounceable = true
  · rw [if_pos h, if_pos h]
    simp only [h, true_implies]
    rw [← pronounce_eq_iff]
    constructor
    · intro heq
      have hdetails : Details.chinese (lexicon.reading a token.surface) =
          .chinese (lexicon.reading b token.surface) := congrArg Token.details heq
      exact congrArg Reading.candidates (Details.chinese.inj hdetails)
    · intro heq
      simp only [reading, heq]
  · rw [if_neg h, if_neg h]
    simp [h]

/-- What becomes of the tokens of a batch. -/
def romanizedBatch (lexicon : Lexicon) (style : Style) (batch : Batch) : Batch :=
  { batch with tokens := batch.tokens.map (lexicon.romanized style) }

theorem romanizedBatch_eq_iff {batch : Batch} :
    lexicon.romanizedBatch a batch = lexicon.romanizedBatch b batch ↔
      ∀ token ∈ (lexicon.romanizedBatch a batch).tokens, lexicon.WritesAlike a b token := by
  simp only [romanizedBatch, Batch.mk.injEq, true_and, List.map_inj_left, romanized_eq_iff,
    List.forall_mem_map, writesAlike_romanized]

end Lexicon

/-! ## Work that only computes -/

namespace RunContext

variable {context : RunContext σ}

theorem workFrom_pure (f : α → β) (interval total place : Nat) (items : List α) :
    context.workFrom interval total (fun item => pure (f item)) place items =
      List.map f <$> context.workFrom interval total pure place items := by
  induction items generalizing place with
  | nil => rfl
  | cons item items ih =>
    simp only [workFrom, ih]
    by_cases hp : place % interval = 0 <;> simp [hp]

/-- Work that only computes is a map over what is worked through. -/
theorem workThrough_pure (f : α → β) (interval : Nat) (items : List α) :
    context.workThrough interval (fun item => pure (f item)) items =
      List.map f <$> context.workThrough interval pure items := by
  simp [workThrough, workFrom_pure]

end RunContext

/-! ## Runs of a new pipeline -/

/-- In all styles runs come to one end, up to what becomes of their results. -/
def EndAlike (f : Style → α → β) (run : Style → Except Fault β × π × Session σ) : Prop :=
  ∃ (outcome : Except Fault α) (t : Session σ), ∀ style,
    (run style).1 = outcome.map (f style) ∧ (run style).2.2 = t

namespace EndAlike

variable {f : Style → α → β} {run : Style → Except Fault β × π × Session σ}

theorem of_error (fault : Fault) (t : Session σ)
    (h : ∀ style, (run style).1 = .error fault ∧ (run style).2.2 = t) : EndAlike f run :=
  ⟨.error fault, t, h⟩

/-- The runs end as one that has no style. -/
theorem of_const {run : Style → Except Fault α × π × Session σ}
    (one : Except Fault α × ε × Session σ)
    (h : ∀ style, (run style).1 = one.1 ∧ (run style).2.2 = one.2.2) :
    EndAlike (fun _ => id) run :=
  ⟨one.1, one.2.2, fun style => by rw [Except.map_id]; exact h style⟩

/-- What a run leaves behind besides its end does not matter. -/
theorem congr {run' : Style → Except Fault β × ε × Session σ} (h : EndAlike f run)
    (heq : ∀ style, (run' style).1 = (run style).1 ∧ (run' style).2.2 = (run style).2.2) :
    EndAlike f run' := by
  obtain ⟨outcome, t, h⟩ := h
  exact ⟨outcome, t, fun style =>
    ⟨(heq style).1.trans (h style).1, (heq style).2.trans (h style).2⟩⟩

end EndAlike

namespace Chinese

variable {lexicon : Lexicon}

/-- A romanizer that works with a lexicon does the same in every style, up to what becomes of the
tokens. -/
theorem Romanizer.exists_romanize_restyled {romanizer : Romanizer σ}
    (hp : romanizer.pronouncer = .ofLexicon lexicon) (context : RunContext σ) (batch : Batch) :
    ∃ x : Attempt Fault (Session σ) Batch, ∀ style,
      ({ romanizer with style } : Romanizer σ).romanize context batch =
        lexicon.romanizedBatch style <$> x := by
  have hwork : ∀ style, (Pronouncer.ofLexicon lexicon).annotate style =
      (fun token => pure (lexicon.romanized style token) : Token → Attempt Fault (Session σ) Token) :=
    fun style => funext fun token => funext fun s => annotate_ofLexicon lexicon style token s
  refine ⟨context.check >>= fun _ =>
    if romanizer.isReady = true then
      context.workThrough romanizer.interval pure batch.tokens >>= fun tokens =>
        pure { batch with tokens }
    else .fail (.initialization .transliteratorNotInitialized), fun style => ?_⟩
  rw [romanize_eq]
  simp only [hp, hwork, RunContext.workThrough_pure, map_bind]
  split
  · simp [Lexicon.romanizedBatch]
  · rfl

/-- A romanizer without tokens does the same in every style. -/
theorem Romanizer.romanize_of_nil {batch : Batch} (h : batch.tokens = []) (romanizer : Romanizer σ)
    (style : Style) (context : RunContext σ) :
    ({ romanizer with style } : Romanizer σ).romanize context batch =
      romanizer.romanize context batch := by
  rw [romanize_eq, romanize_eq, h]
  rfl

section Stages

variable {romanizer : Romanizer σ} {phase : Phase} {context : RunContext σ} {batch : Batch}
  {s : Session σ}

theorem endAlike_romanizer (hp : romanizer.pronouncer = .ofLexicon lexicon) :
    EndAlike lexicon.romanizedBatch fun style => Hanyu.Stage.process context batch
      ((⟨.inr { romanizer with style }, phase⟩ : Hanyu.Stage (Stage σ ε)), s) := by
  have hp' : (romanizer.readied phase).pronouncer = .ofLexicon lexicon := hp
  obtain ⟨x, hx⟩ := Romanizer.exists_romanize_restyled hp' context batch
  refine ⟨(x s).1.mapError (·.inStage Romanizer.name .process), (x s).2, fun style => ?_⟩
  have hrun : Romanizer.romanize context batch
      (({ romanizer with style } : Romanizer σ).readied phase) s =
        ((x s).1.map (lexicon.romanizedBatch style), (x s).2) := by
    refine (congrFun (hx style) s).trans ?_
    rw [← bind_pure_comp]
    exact Attempt.bind_pure_apply _ _ _
  simp only [process_romanizer_eq, hrun, and_true]
  cases (x s).1 <;> rfl

theorem endAlike_romanizer_of_nil (h : batch.tokens = []) :
    EndAlike (fun _ => id) fun style => Hanyu.Stage.process context batch
      ((⟨.inr { romanizer with style }, phase⟩ : Hanyu.Stage (Stage σ ε)), s) := by
  refine .of_const (Hanyu.Stage.process context batch
    ((⟨.inr romanizer, phase⟩ : Hanyu.Stage (Stage σ ε)), s)) fun style => ?_
  have hrun : Romanizer.romanize context batch
      (({ romanizer with style } : Romanizer σ).readied phase) =
        (romanizer.readied phase).romanize context batch :=
    Romanizer.romanize_of_nil h (romanizer.readied phase) style context
  rw [process_romanizer_eq, process_romanizer_eq, hrun]
  exact ⟨rfl, rfl⟩

end Stages

/-- A run that has to stop in the beginning does so in every style. -/
theorem endAlike_of_stops {f : Style → Batch → Batch} {context : RunContext σ} {s : Session σ}
    (hs : context.cancellation.Stops s) (settings : Settings) (lexicon : Lexicon) (mode : Mode)
    (batch : Batch) :
    EndAlike f fun style =>
      Pipeline.process context mode batch (lexiconPipeline settings lexicon style, s) := by
  obtain ⟨reason, hc⟩ := RunContext.check_of_stops hs
  refine .of_error (.cancelled reason) s fun style => ?_
  rw [Pipeline.process, Pipeline.check_bind, hc]
  exact ⟨rfl, rfl⟩

/-- A combined run comes to the same end in every style, up to what becomes of the tokens. -/
theorem endAlike_combined (settings : Settings) (lexicon : Lexicon) (context : RunContext σ)
    (batch : Batch) (s : Session σ) :
    EndAlike lexicon.romanizedBatch fun style =>
      Pipeline.process context .combined batch (lexiconPipeline settings lexicon style, s) := by
  by_cases hs : context.cancellation.Stops s
  · exact endAlike_of_stops hs settings lexicon .combined batch
  · have hprocess : ∀ style, Pipeline.process context .combined batch
        (lexiconPipeline settings lexicon style, s) = _ := fun style =>
      Pipeline.process_of_stages (stages_lexiconPipeline settings lexicon style) rfl rfl hs (by simp)
    cases hrun : Hanyu.Stage.process (context.offset 0) batch
        (.ofProvider (.inl (.new (.ofLexicon lexicon) settings.tokenizerLimit
          settings.checkInterval) : Stage σ LexiconSegmenter), { s with stageTotal := 0 }) with
    | mk result left =>
      obtain ⟨first, t⟩ := left
      cases result with
      | error fault =>
        refine .of_error fault t fun style => ?_
        rw [hprocess, Stage.processAll_combined, hrun]
        exact ⟨rfl, rfl⟩
      | ok out =>
        -- The tokenizer does not know the style, so the romanizer gets the same tokens in each.
        have hsecond := @endAlike_romanizer σ LexiconSegmenter lexicon
          (Romanizer.new (.ofLexicon lexicon) settings.checkInterval) .fresh
          (context.offset (0 + t.stageTotal)) out { t with stageTotal := 0 } rfl
        refine hsecond.congr fun style => ?_
        rw [hprocess, Stage.processAll_combined, hrun]
        exact ⟨rfl, rfl⟩

/-- In the other modes a run comes to the same end in every style, as nothing that is to be
transliterated has been tokenized. -/
theorem endAlike_of_ne_combined {mode : Mode} (hm : mode ≠ .combined) (settings : Settings)
    (lexicon : Lexicon) (context : RunContext σ) {batch : Batch} (ht : batch.tokens = [])
    (s : Session σ) :
    EndAlike (fun _ => id) fun style =>
      Pipeline.process context mode batch (lexiconPipeline settings lexicon style, s) := by
  by_cases hs : context.cancellation.Stops s
  · exact endAlike_of_stops hs settings lexicon mode batch
  · cases mode with
    | combined => exact absurd rfl hm
    | tokenize =>
      refine .of_const (Hanyu.Stage.process (context.offset 0) batch
        (.ofProvider (.inl (.new (.ofLexicon lexicon) settings.tokenizerLimit
          settings.checkInterval) : Stage σ LexiconSegmenter), { s with stageTotal := 0 }))
        fun style => ?_
      rw [Pipeline.process_tokenize (stages_lexiconPipeline settings lexicon style) rfl rfl hs]
      exact ⟨rfl, rfl⟩
    | transliterate =>
      by_cases hr : batch.raw = []
      · have hsecond := @endAlike_romanizer_of_nil σ LexiconSegmenter
          (Romanizer.new (.ofLexicon lexicon) settings.checkInterval) .fresh
          (context.offset 0) batch { s with stageTotal := 0 } ht
        refine hsecond.congr fun style => ?_
        rw [Pipeline.process_transliterate (stages_lexiconPipeline settings lexicon style) rfl rfl hs
          hr]
        exact ⟨rfl, rfl⟩
      · have hc := congrArg Prod.fst (RunContext.check_of_not_stops hs)
        refine .of_error (.configuration .rawChunks) s fun style => ?_
        rw [Pipeline.process_eq_of_raw hc
          (supports_lexiconPipeline settings lexicon style .transliterate) hr]
        exact ⟨rfl, rfl⟩

end Chinese

/-! ## Runs of an engine -/

/-- Two runs whose pipelines are opened in different styles have one result, unless they are combined
ones and there is a reading in the result that the styles write differently. -/
theorem Engine.transliterate_eq_iff {settings : Settings} {lexicon : Lexicon} {a b : Style}
    {engine : Engine (Chinese.Stage σ LexiconSegmenter)} {scheme scheme' : Option Text}
    {s : Session σ}
    (ha : (engine.openPipeline Chinese.language scheme).run s =
      (.ok (Chinese.lexiconPipeline settings lexicon a), s))
    (hb : (engine.openPipeline Chinese.language scheme').run s =
      (.ok (Chinese.lexiconPipeline settings lexicon b), s))
    (context : RunContext σ) (mode : Mode) (text : Text) :
    ((engine.transliterate context Chinese.language scheme mode text).run s).1 =
        ((engine.transliterate context Chinese.language scheme' mode text).run s).1 ↔
      (mode = .combined → ∀ out,
        ((engine.transliterate context Chinese.language scheme mode text).run s).1 = .ok out →
          ∀ token ∈ out.tokens, lexicon.WritesAlike a b token) := by
  rw [transliterate_of_opened ha, transliterate_of_opened hb]
  by_cases hm : mode = .combined
  · subst hm
    obtain ⟨outcome, t, h⟩ := Chinese.endAlike_combined settings lexicon context
      (Chinese.lexiconBatch settings text) s
    simp only [(h a).1, (h b).1]
    cases outcome with
    | error fault => simp [Except.map, Except.mapError]
    | ok out => simp [Except.map, Except.mapError, Lexicon.romanizedBatch_eq_iff]
  · obtain ⟨outcome, t, h⟩ := Chinese.endAlike_of_ne_combined hm settings lexicon context
      (rfl : (Chinese.lexiconBatch settings text).tokens = []) s
    simp only [(h a).1, (h b).1, hm, false_implies]

/-- **Runs without a scheme.** When the default scheme of the settings exists, an engine that works
with a lexicon runs alike for every name of that scheme and for every name that no scheme has.
Without a name it has the same result exactly when the run is not a combined one, or has no result,
or has one with readings that the default style and tone marks write alike. -/
theorem Engine.agrees_without_scheme_iff {settings : Settings} {scheme : Scheme}
    (hs : scheme ∈ Chinese.schemes)
    (hd : scheme.name.sameUpToCase settings.defaultScheme = true) (lexicon : Lexicon) :
    ∃ engine : Engine (Chinese.Stage σ LexiconSegmenter),
      Engine.ofLexicon settings lexicon = .ok engine ∧
      ∀ (context : RunContext σ) (mode : Mode) (text : Text) (session : Session σ),
        (∀ asked : Text,
          scheme.name.sameUpToCase asked.trim = true ∨ ¬Chinese.HasScheme asked.trim →
            (engine.transliterate context Chinese.language (some asked) mode text).run session =
              (engine.transliterate context Chinese.language (some settings.defaultScheme) mode
                text).run session) ∧
        (((engine.transliterate context Chinese.language none mode text).run session).1 =
            ((engine.transliterate context Chinese.language (some settings.defaultScheme) mode
              text).run session).1 ↔
          (mode = .combined → ∀ out,
            ((engine.transliterate context Chinese.language none mode text).run session).1 =
              .ok out →
            ∀ token ∈ out.tokens, lexicon.WritesAlike .tone (.parse scheme.parameter) token)) := by
  let engine : Engine (Chinese.Stage σ LexiconSegmenter) :=
    ⟨Chinese.catalog settings (.ofLexicon lexicon) (.ofLexicon lexicon), settings⟩
  have hmade : Engine.ofLexicon settings lexicon = .ok engine := by
    have hcatalog := (Chinese.ofDeclarations_eq_ok_iff settings
      (Chinese.Segmenter.ofLexicon lexicon : Chinese.Segmenter σ _) (.ofLexicon lexicon)).mpr
      ⟨⟨scheme, hs, hd⟩, rfl⟩
    rw [Engine.ofLexicon, hcatalog]
  have hnamed : ∀ {asked : Text} (session : Session σ),
      scheme.name.sameUpToCase asked.trim = true ∨ ¬Chinese.HasScheme asked.trim →
        (engine.openPipeline Chinese.language (some asked)).run session =
          (.ok (Chinese.lexiconPipeline settings lexicon (.parse scheme.parameter)), session) :=
    fun session h => Engine.run_openPipeline (Chinese.openPipeline_of_resolved _ _ hs
      (Chinese.resolveScheme_default _ _ hs hd h) session)
  have hdefault := Text.sameUpToCase_trim (Chinese.trim_name scheme hs) hd
  refine ⟨engine, hmade, fun context mode text session => ⟨fun asked h => ?_, ?_⟩⟩
  · rw [transliterate_of_opened (hnamed session h),
      transliterate_of_opened (hnamed session (.inl hdefault))]
  · exact transliterate_eq_iff (Engine.run_openPipeline (Chinese.openPipeline_none _ _ session))
      (hnamed session (.inl hdefault)) context mode text

/-- With pinyin as the default scheme, in any case, a run without a scheme is one with a scheme that
does not exist. -/
theorem Engine.agrees_without_scheme_iff_pinyin :
    let lexicon : Lexicon := ⟨[(['好'], ['a'])], [('好', ["hao3".toList])], 1⟩
    let settings : Settings := ⟨100, 4096, "PINYIN".toList, 0⟩
    ∃ engine : Engine (Chinese.Stage Unit LexiconSegmenter),
      Engine.ofLexicon settings lexicon = .ok engine ∧
        ((engine.transliterate .free Chinese.language none .combined ['好']).run
            (Session.start 0 ())).1 =
          ((engine.transliterate .free Chinese.language (some ['?']) .combined ['好']).run
            (Session.start 0 ())).1 := by
  intro lexicon settings
  have hs : (⟨"Pinyin".toList, "Pinyin with tone marks (nǐ hǎo)".toList, Chinese.Romanizer.name,
      "tone".toList⟩ : Scheme) ∈ Chinese.schemes := List.mem_cons_self
  have hstyle : Style.parse "tone".toList = .tone := by decide +kernel
  have hd : Text.sameUpToCase "Pinyin".toList settings.defaultScheme = true := by decide +kernel
  obtain ⟨engine, hmade, h⟩ := @agrees_without_scheme_iff Unit settings _ hs hd lexicon
  obtain ⟨hnamed, hnone⟩ := h .free .combined ['好'] (Session.start 0 ())
  have hunknown : ¬Chinese.HasScheme (Text.trim ['?']) := by
    rintro ⟨scheme, hm, hname⟩
    revert scheme
    decide +kernel
  refine ⟨engine, hmade, ?_⟩
  rw [hnamed ['?'] (.inr hunknown), hnone]
  intro _ out _ token _ _ c _ reading _
  rw [hstyle]

/-- With tone digits as the default style, a run without a scheme writes tone marks all the same. -/
theorem Engine.differs_without_scheme :
    let lexicon : Lexicon := ⟨[(['好'], ['a'])], [('好', ["hao3".toList])], 1⟩
    let settings : Settings := ⟨100, 4096, "Pinyin (numbered)".toList, 0⟩
    let engine : Engine (Chinese.Stage Unit LexiconSegmenter) :=
      ⟨Chinese.catalog settings (.ofLexicon lexicon) (.ofLexicon lexicon), settings⟩
    let romanizations (scheme : Option Text) :=
      ((engine.transliterate .free Chinese.language scheme .combined ['好']).run
        (Session.start 0 ())).1.map fun batch => batch.tokens.map Token.romanization
    Engine.ofLexicon settings lexicon = .ok engine ∧
      romanizations none = .ok ["hǎo".toList] ∧
      romanizations (some settings.defaultScheme) = .ok ["hao3".toList] ∧
      romanizations (some ['?']) = .ok ["hao3".toList] := by
  intro lexicon settings engine romanizations
  refine ⟨rfl, ?_⟩
  decide +kernel

end Hanyu
