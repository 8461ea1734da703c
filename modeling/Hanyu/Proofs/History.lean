import Hanyu.Proofs.Determined
import Hanyu.Proofs.LostEngines
import Hanyu.Proofs.Opening

/-!
# Pipelines with a past

What has been done with a pipeline for Chinese leaves nothing behind that changes an answer, but
for the scheme that was passed last.

* `Pipeline.renewed`: a pipeline as if nothing had been done with it but configuring. Only the scheme
  that operations pass last shows on it (`Pipeline.renewed_apply`, `Pipeline.renewed_applyAll`).
* `Stage.IsUsable`: a stage can be made ready, and when it is, it holds what it needs. No operation
  breaks this (`Act.isUsable_apply`).
* `Pipeline.process_congr`: pipelines that are the same when they are renewed answer alike.
* `Chinese.process_applyAll`: so a pipeline answers like a new one with the same scheme.
-/

namespace Hanyu

variable {σ ε π α : Type}

/-! ## Going through stages -/

namespace Stage

theorem forAll_ok {x : Attempt Fault (Stage π × Session σ) Unit} {f : Stage π → Stage π}
    (hx : ∀ stage s, x (stage, s) = (.ok (), f stage, s)) (stages : List (Stage π))
    (s : Session σ) : forAll x stages s = (.ok (), stages.map f, s) := by
  induction stages with
  | nil => rfl
  | cons stage stages ih =>
    rw [forAll_cons_ok (hx stage s), ih]
    rfl

end Stage

/-- Operations change nothing of a pipeline but its stages. -/
theorem Act.apply_eq [Provider σ π] (act : Act σ) (state : Pipeline π × Session σ) :
    (act.apply state).1 = { state.1 with stages := (act.apply state).1.stages } := by
  obtain ⟨pipeline, s⟩ := state
  cases act with
  | configure options => rfl
  | start context =>
    rw [apply, Pipeline.start, Pipeline.check_bind]
    split <;> rfl
  | restart context fresh =>
    rw [apply, Pipeline.restart, Pipeline.check_bind]
    split <;> rfl
  | process context mode batch =>
    rw [apply]
    rcases Pipeline.snd_process context mode batch (pipeline, s) with h | h
    · rw [h]
    · rw [h]
      rfl
  | close => rfl
  | outside session => rfl

/-! ## Schemes -/

/-- The scheme that an operation passes, if it passes one. -/
def Act.scheme? : Act σ → Option Text
  | configure options => options.lookup schemeOption
  | _ => none

/-- The scheme that operations in a row pass last, if they pass one. -/
def Act.lastScheme? (acts : List (Act σ)) : Option Text := (acts.filterMap scheme?).getLast?

theorem Act.lastScheme?_cons (act : Act σ) (acts : List (Act σ)) :
    lastScheme? (act :: acts) = (lastScheme? acts).or act.scheme? := by
  rw [lastScheme?, lastScheme?, List.filterMap_cons]
  cases act.scheme? with
  | none => rw [Option.or_none]
  | some name => cases h : (acts.filterMap scheme?).getLast? <;> simp [List.getLast?_cons, h]

/-! ## Providers with the style of a scheme -/

namespace Chinese

/-- The provider with the style of a scheme, if one is given. -/
def restyled (scheme : Option Text) : Stage σ ε → Stage σ ε :=
  Sum.map id fun romanizer =>
    match scheme with
    | some name => { romanizer with style := .parse name }
    | none => romanizer

theorem restyled_none (provider : Stage σ ε) : restyled none provider = provider := by
  cases provider <;> rfl

/-- Only the last scheme counts. -/
theorem restyled_restyled (scheme scheme' : Option Text) (provider : Stage σ ε) :
    restyled scheme (restyled scheme' provider) = restyled (scheme.or scheme') provider := by
  cases provider <;> cases scheme <;> cases scheme' <;> rfl

theorem renewed_restyled (scheme : Option Text) (provider : Stage σ ε) :
    renewed (restyled scheme provider) = restyled scheme (renewed provider) := by
  cases provider <;> cases scheme <;> rfl

theorem configure_eq (options : Options) (stage : Hanyu.Stage (Stage σ ε)) (s : Session σ) :
    Hanyu.Stage.configure options (stage, s) =
      (.ok (), stage.map (restyled (options.lookup schemeOption)), s) := by
  obtain ⟨provider, phase⟩ := stage
  cases provider with
  | inl tokenizer => rfl
  | inr romanizer =>
    have hstyle : (Provider.configure options : Attempt Fault (Stage σ ε × Session σ) Unit)
        (.inr romanizer, s) = (.ok (), .inr (romanizer.configured options), s) := rfl
    simp only [Hanyu.Stage.configure, Hanyu.Stage.perform, hstyle, Romanizer.configured,
      Hanyu.Stage.map, restyled]
    cases options.lookup schemeOption <;> rfl

/-- The scheme that an operation passes is all that shows on the provider of a stage when it is
renewed. -/
theorem renewed_of_step {act : Act σ} {state state' : Hanyu.Stage (Stage σ ε) × Session σ}
    (hstep : act.Step state state') :
    renewed state'.1.provider = restyled act.scheme? (renewed state.1.provider) := by
  cases hstep with
  | configure options =>
    rw [configure_eq]
    exact renewed_restyled _ _
  | start context =>
    exact (renewed_ensureReady state.1 state.2).trans (restyled_none _).symm
  | restart context fresh =>
    refine Eq.trans ?_ (restyled_none _).symm
    rw [Hanyu.Stage.restart, (Hanyu.Stage.snd_perform _ _ _ _ _).1]
    exact renewed_restart fresh state.1.provider state.2
  | process context mode batch reached done stage s =>
    exact (renewed_process (context.offset done) reached stage _).trans (restyled_none _).symm
  | close =>
    refine Eq.trans ?_ (restyled_none _).symm
    simp only [Hanyu.Stage.release]
    split
    · rfl
    · rw [(Hanyu.Stage.snd_perform _ _ _ _ _).1]
      exact renewed_release state.1.provider state.2

end Chinese

namespace Pipeline

/-- The pipeline as if nothing had been done with it but configuring. -/
def renewed (pipeline : Pipeline (Chinese.Stage σ ε)) : Pipeline (Chinese.Stage σ ε) :=
  .ofProviders pipeline.name pipeline.chunkLimit
    (pipeline.stages.map fun stage => Chinese.renewed stage.provider)

theorem map_renewed_apply (act : Act σ) (state : Pipeline (Chinese.Stage σ ε) × Session σ) :
    ((act.apply state).1.stages.map fun stage => Chinese.renewed stage.provider) =
      state.1.stages.map fun stage =>
        Chinese.restyled act.scheme? (Chinese.renewed stage.provider) := by
  cases act with
  | configure options =>
    have hall := Stage.forAll_ok (Chinese.configure_eq options) state.1.stages state.2
    have hstages : ((Act.configure options).apply state).1.stages =
        state.1.stages.map (.map (Chinese.restyled (options.lookup schemeOption))) :=
      congrArg (fun outcome => outcome.2.1) hall
    rw [hstages, List.map_map]
    exact List.map_congr_left fun stage _ => Chinese.renewed_restyled _ _
  | _ =>
    simp only [Act.scheme?, Chinese.restyled_none]
    refine Act.map_stages_apply (fun _ _ hstep => ?_) state
    simpa only [Act.scheme?, Chinese.restyled_none] using Chinese.renewed_of_step hstep

/-- Of an operation only the scheme that it passes shows on the renewed pipeline. -/
theorem renewed_apply (act : Act σ) (state : Pipeline (Chinese.Stage σ ε) × Session σ) :
    (act.apply state).1.renewed = state.1.renewed.map (Chinese.restyled act.scheme?) := by
  rw [Act.apply_eq, renewed, map, renewed, ofProviders, ofProviders, map_renewed_apply]
  simp only [List.map_map]
  rfl

theorem map_restyled_none (pipeline : Pipeline (Chinese.Stage σ ε)) :
    pipeline.map (Chinese.restyled none) = pipeline := by
  have hstage : Stage.map (Chinese.restyled none : Chinese.Stage σ ε → _) = id := by
    funext stage
    rw [Stage.map, Chinese.restyled_none]
    rfl
  rw [map, hstage, List.map_id]

theorem map_restyled (scheme scheme' : Option Text) (pipeline : Pipeline (Chinese.Stage σ ε)) :
    (pipeline.map (Chinese.restyled scheme')).map (Chinese.restyled scheme) =
      pipeline.map (Chinese.restyled (scheme.or scheme')) := by
  simp only [map, List.map_map]
  congr 1
  refine List.map_congr_left fun stage _ => ?_
  rw [Function.comp_apply, Stage.map, Stage.map, Chinese.restyled_restyled]
  rfl

/-- Of operations in a row only the scheme that they pass last shows on the renewed pipeline. -/
theorem renewed_applyAll (acts : List (Act σ)) (state : Pipeline (Chinese.Stage σ ε) × Session σ) :
    (Act.applyAll acts state).1.renewed =
      state.1.renewed.map (Chinese.restyled (Act.lastScheme? acts)) := by
  induction acts generalizing state with
  | nil => exact (map_restyled_none _).symm
  | cons act acts ih =>
    rw [Act.applyAll, List.foldl_cons, Act.lastScheme?_cons, ← map_restyled, ← renewed_apply]
    exact ih _

end Pipeline

/-! ## Stages that are ready hold what they need -/

namespace Chinese

/-- An engine can be made and loaded in every session. -/
def Segmenter.AlwaysLoads (segmenter : Segmenter σ ε) : Prop :=
  ∀ s, ∃ engine, (segmenter.opened s).1 = .ok engine

/-- The provider can always be started, and what it asks answers alike whatever its notes are. -/
def IsReliable : Stage σ ε → Prop :=
  Sum.elim (fun tokenizer => tokenizer.segmenter.AlwaysLoads ∧ tokenizer.segmenter.IsPure)
    fun romanizer => romanizer.pronouncer.IsPure

theorem isReliable_renewed {provider : Stage σ ε} :
    IsReliable (renewed provider) ↔ IsReliable provider := by
  cases provider <;> exact Iff.rfl

theorem isReliable_restyled {scheme : Option Text} {provider : Stage σ ε} :
    IsReliable (restyled scheme provider) ↔ IsReliable provider := by
  cases provider <;> cases scheme <;> exact Iff.rfl

/-- When engines always load, loading one does not fail. -/
theorem Tokenizer.loadEngine_of_alwaysLoads {tokenizer : Tokenizer σ ε}
    (h : tokenizer.segmenter.AlwaysLoads) (s : Session σ) :
    (loadEngine (tokenizer, s)).1 = .ok () := by
  cases he : tokenizer.engine with
  | some engine =>
    rw [loadEngine, he]
  | none =>
    obtain ⟨engine, ho⟩ := h s
    rw [loadEngine_of_none he]
    split
    · rfl
    · rename_i hopened
      rw [hopened] at ho
      cases ho

theorem start_of_isReliable {provider : Stage σ ε} (h : IsReliable provider) (s : Session σ) :
    (Provider.start (provider, s)).1 = .ok () := by
  cases provider with
  | inl tokenizer => exact Tokenizer.loadEngine_of_alwaysLoads h.1 s
  | inr romanizer => rfl

theorem restart_of_isReliable {provider : Stage σ ε} (h : IsReliable provider) (fresh : Bool)
    (s : Session σ) : (Provider.restart fresh (provider, s)).1 = .ok () := by
  cases provider with
  | inl tokenizer =>
    cases fresh with
    | false => exact Tokenizer.loadEngine_of_alwaysLoads h.1 s
    | true =>
      have hdropped : (tokenizer.dropEngine s).1.segmenter.AlwaysLoads := by
        rw [Tokenizer.dropEngine_fst]
        exact h.1
      exact Tokenizer.loadEngine_of_alwaysLoads hdropped _
  | inr romanizer => rfl

end Chinese

namespace Stage

/-- A romanizer in a stage that is ready is ready. -/
def IsAwake (stage : Stage (Chinese.Stage σ ε)) : Prop :=
  ∀ romanizer, stage.provider = .inr romanizer → stage.phase = .ready → romanizer.isReady = true

end Stage

/-- No step of an operation puts the romanizer of a ready stage to sleep. -/
theorem Act.isAwake_of_step {act : Act σ} {state state' : Stage (Chinese.Stage σ ε) × Session σ}
    (hstep : act.Step state state') (h : state.1.IsAwake) : state'.1.IsAwake := by
  obtain ⟨⟨provider, phase⟩, s⟩ := state
  cases provider with
  | inl tokenizer =>
    -- A step makes no romanizer of a tokenizer.
    intro romanizer hr
    have hleft := congrArg Sum.isLeft (Chinese.renewed_of_step hstep)
    simp [Chinese.renewed, Chinese.restyled, hr] at hleft
  | inr romanizer =>
    have hawake : phase = .ready → romanizer.isReady = true := h romanizer rfl
    cases hstep with
    | configure options =>
      rw [Chinese.configure_eq]
      intro configured hc hp
      obtain rfl := Sum.inr.inj hc
      cases options.lookup schemeOption <;> exact hawake hp
    | start context =>
      rw [Chinese.ensureReady_romanizer]
      intro started hs hp
      obtain rfl := Sum.inr.inj hs
      exact Chinese.Romanizer.isReady_readied hawake
    | restart context fresh =>
      intro restarted hr hp
      obtain rfl := Sum.inr.inj hr
      rfl
    | process context mode batch reached done =>
      rw [Chinese.process_romanizer_eq]
      intro used hu hp
      obtain rfl := Sum.inr.inj hu
      exact Chinese.Romanizer.isReady_readied hawake
    | close =>
      intro released hr hp
      cases phase <;> cases hp

namespace Stage

/-- The stage can be made ready, and when it is, it holds what it needs. -/
structure IsUsable (stage : Stage (Chinese.Stage σ ε)) : Prop where
  reliable : Chinese.IsReliable stage.provider
  sound : stage.IsSound
  awake : stage.IsAwake

theorem isUsable_ofProvider {provider : Chinese.Stage σ ε} (h : Chinese.IsReliable provider)
    (hn : Chinese.renewed provider = provider) : (ofProvider provider).IsUsable where
  reliable := h
  sound tokenizer ht := by
    obtain rfl : provider = .inl tokenizer := ht
    refine Chinese.Tokenizer.isSound_of_none ?_ (by simp [ofProvider])
    rw [← Sum.inl.inj hn]
  awake _ _ hp := by cases hp

theorem fst_perform_of_ok [Provider σ π] {operation : Operation} {after : Phase → Phase}
    {x : Attempt Fault (π × Session σ) α} {stage : Stage π} {s : Session σ} {a : α}
    (h : (x (stage.provider, s)).1 = .ok a) : (perform operation after x (stage, s)).1 = .ok a := by
  simp only [perform]
  cases hx : x (stage.provider, s) with
  | mk result left =>
    rw [hx] at h
    obtain rfl : result = .ok a := h
    rfl

end Stage

/-- When engines always load, no operation loses one. -/
theorem Act.not_losesEngineAt {act : Act σ} {state : Pipeline (Chinese.Stage σ ε) × Session σ}
    (h : ∀ stage ∈ state.1.stages, Chinese.IsReliable stage.provider) (place : Nat) :
    ¬act.LosesEngineAt state place := by
  rintro ⟨-, ha, -, hf⟩
  have hreliable := h _ (List.mem_of_getElem? (Stage.getElem?_of_arrival ha))
  rw [Stage.restart, Stage.fst_perform_of_ok (Chinese.restart_of_isReliable hreliable true _)] at hf
  cases hf

/-- No operation breaks what makes stages usable. -/
theorem Act.isUsable_apply {act : Act σ} {state : Pipeline (Chinese.Stage σ ε) × Session σ}
    (h : ∀ stage ∈ state.1.stages, stage.IsUsable) :
    ∀ stage ∈ (act.apply state).1.stages, stage.IsUsable := by
  have hreliable := fun stage hm => (h stage hm).reliable
  have hreliable' : ∀ stage ∈ (act.apply state).1.stages, Chinese.IsReliable stage.provider := by
    refine act.forall_apply (fun _ _ hstep hr => ?_) state hreliable
    rw [← Chinese.isReliable_renewed, Chinese.renewed_of_step hstep]
    exact Chinese.isReliable_restyled.mpr (Chinese.isReliable_renewed.mpr hr)
  have hsound : (act.apply state).1.IsSound :=
    (isSound_apply_iff fun stage hm => (h stage hm).sound).mpr (not_losesEngineAt hreliable)
  have hawake := act.forall_apply (fun _ _ => isAwake_of_step) state
    fun stage hm => (h stage hm).awake
  exact fun stage hm => ⟨hreliable' stage hm, hsound stage hm, hawake stage hm⟩

/-! ## Answers -/

namespace Chinese

/-- A usable stage is made ready, stays usable, and goes to work. -/
theorem exists_ready {stage : Hanyu.Stage (Stage σ ε)} (h : stage.IsUsable) (context : RunContext σ)
    (batch : Batch) (s : Session σ) :
    ∃ ready t, Hanyu.Stage.process context batch (stage, s) =
        Hanyu.Stage.perform .process id (Provider.process context batch) (ready, t) ∧
      renewed ready.provider = renewed stage.provider ∧ ready.phase = .ready ∧
        ready.IsSound ∧ ready.IsAwake := by
  have hsame := renewed_ensureReady stage s
  have hsound := Hanyu.Stage.keeps_ensureReady Tokenizer.isStable_isSound stage s h.sound
  have hawake := Act.isAwake_of_step (.start context (stage, s)) h.awake
  have hok : (Hanyu.Stage.ensureReady (stage, s)).1 = .ok () := by
    simp only [Hanyu.Stage.ensureReady]
    split
    · rfl
    · exact Hanyu.Stage.fst_perform_of_ok (start_of_isReliable h.reliable s)
  rcases Hanyu.Stage.process_cases context batch stage s with
    ⟨fault, stage', t, hr, -⟩ | ⟨ready, t, hr, hready, hp⟩
  · rw [hr] at hok
    cases hok
  · rw [hr] at hsame hsound hawake
    exact ⟨ready, t, hp, hsame, hready, hsound, hawake⟩

/-- What a usable stage makes of a batch is determined by its renewed provider, unless it has to
stop. -/
theorem exists_gives_process {provider : Stage σ ε} (h : IsReliable provider) (batch : Batch) :
    ∃ result, ∀ stage : Hanyu.Stage (Stage σ ε), stage.IsUsable →
      renewed stage.provider = renewed provider → ∀ (context : RunContext σ) s,
        ¬context.cancellation.Stops (Hanyu.Stage.process context batch (stage, s)).2.2 →
          (Hanyu.Stage.process context batch (stage, s)).1 = result := by
  cases provider with
  | inl tokenizer =>
    obtain ⟨hloads, table, htable⟩ := h
    refine ⟨(tokenizedBatch table tokenizer.limit batch).mapError
      (·.inStage Tokenizer.name .process), fun stage hs hsame context s ht => ?_⟩
    obtain ⟨⟨provider, phase⟩, t, hp, hr, hready, hsound, -⟩ := exists_ready hs context batch s
    obtain ⟨ready, rfl, hsegmenter, hlimit⟩ := exists_of_renewed_eq_inl (hr.trans hsame)
    rw [hp, perform_process_eq] at ht ⊢
    obtain ⟨engine, he⟩ := Option.isSome_iff_exists.mp ((hsound ready rfl).holds hready)
    have hloaded : tokenizer.segmenter.Loads engine :=
      hsegmenter ▸ (hsound ready rfl).loaded engine he
    have hanswer : ∀ chunk notes,
        (ready.segmenter.segment engine chunk notes).answer = table chunk := by
      rw [hsegmenter]
      exact htable engine hloaded
    have hgives := Tokenizer.gives_tokenize he hanswer context batch t ht
    rw [hlimit] at hgives
    exact congrArg (·.mapError (·.inStage Tokenizer.name .process)) hgives
  | inr romanizer =>
    obtain ⟨table, htable⟩ := h
    refine ⟨(romanizedBatch table romanizer.style batch).mapError
      (·.inStage Romanizer.name .process), fun stage hs hsame context s ht => ?_⟩
    obtain ⟨⟨provider, phase⟩, t, hp, hr, hready, -, hawake⟩ := exists_ready hs context batch s
    obtain ⟨ready, rfl, hpronouncer, hstyle⟩ := exists_of_renewed_eq_inr (hr.trans hsame)
    rw [hp, perform_process_eq] at ht ⊢
    have hanswer : ∀ text style all notes,
        (ready.pronouncer text style all notes).answer = table text style all := by
      rw [hpronouncer]
      exact htable
    have hgives := Romanizer.gives_romanize (hawake ready rfl hready) hanswer context batch t ht
    rw [hstyle] at hgives
    exact congrArg (·.mapError (·.inStage Romanizer.name .process)) hgives

/-- A run that does not have to stop in the end did not have to when the first stage was done. -/
theorem not_stops_of_processAll_cons {handle : Cancellation} {context : RunContext σ} {mode : Mode}
    {done : UInt64} {batch : Batch} {stage : Hanyu.Stage (Stage σ ε)}
    {stages : List (Hanyu.Stage (Stage σ ε))} {s : Session σ}
    (hm : mode.selects stage.profile.kind = true)
    (ht : ¬handle.Stops
      (Hanyu.Stage.processAll context mode done batch (stage :: stages) s).2.2) :
    ¬handle.Stops (Hanyu.Stage.process (context.offset done) batch
      (stage, { s with stageTotal := 0 })).2.2 := by
  rw [Hanyu.Stage.processAll, if_pos hm] at ht
  intro hs
  split at ht
  · rename_i hp
    rw [hp] at hs
    exact ht hs
  · rename_i hp
    rw [hp] at hs
    exact ht (stops_processAll _ _ _ _ _ hs)

/-- Stages that are the same when they are renewed make the same of a batch, unless a run has to
stop. -/
theorem processAll_congr {stages stages' : List (Hanyu.Stage (Stage σ ε))}
    (hsame : (stages.map fun stage => renewed stage.provider) =
      stages'.map fun stage => renewed stage.provider)
    (h : ∀ stage ∈ stages, stage.IsUsable) (h' : ∀ stage ∈ stages', stage.IsUsable)
    {context context' : RunContext σ} {mode : Mode} {done done' : UInt64} {batch : Batch}
    {s s' : Session σ}
    (ht : ¬context.cancellation.Stops
      (Hanyu.Stage.processAll context mode done batch stages s).2.2)
    (ht' : ¬context'.cancellation.Stops
      (Hanyu.Stage.processAll context' mode done' batch stages' s').2.2) :
    (Hanyu.Stage.processAll context mode done batch stages s).1 =
      (Hanyu.Stage.processAll context' mode done' batch stages' s').1 := by
  induction stages generalizing stages' done done' batch s s' with
  | nil =>
    obtain rfl : stages' = [] := List.map_eq_nil_iff.mp hsame.symm
    rfl
  | cons stage stages ih =>
    cases stages' with
    | nil => cases hsame
    | cons stage' stages' =>
      obtain ⟨hhead, hrest⟩ := List.cons.inj hsame
      obtain ⟨hs, hl⟩ := List.forall_mem_cons.mp h
      obtain ⟨hs', hl'⟩ := List.forall_mem_cons.mp h'
      have hprofile : stage'.profile = stage.profile := by
        exact (profile_renewed _).symm.trans
          ((congrArg Provider.profile hhead.symm).trans (profile_renewed _))
      by_cases hm : mode.selects stage.profile.kind = true
      · have hm' : mode.selects stage'.profile.kind = true := by rwa [hprofile]
        obtain ⟨result, hresult⟩ := exists_gives_process hs.reliable batch
        have hfirst := hresult stage hs rfl _ _ (not_stops_of_processAll_cons hm ht)
        have hfirst' := hresult stage' hs' hhead.symm _ _ (not_stops_of_processAll_cons hm' ht')
        rw [Hanyu.Stage.processAll, if_pos hm] at ht ⊢
        rw [Hanyu.Stage.processAll, if_pos hm'] at ht' ⊢
        cases hp : Hanyu.Stage.process (context.offset done) batch
            (stage, { s with stageTotal := 0 }) with
        | mk made left =>
          cases hp' : Hanyu.Stage.process (context'.offset done') batch
              (stage', { s' with stageTotal := 0 }) with
          | mk made' left' =>
            rw [hp] at ht hfirst
            rw [hp'] at ht' hfirst'
            obtain rfl : made = result := hfirst
            obtain rfl : made' = made := hfirst'
            cases made' with
            | error fault => rfl
            | ok between => exact ih hrest hl hl' ht ht'
      · have hm' : ¬mode.selects stage'.profile.kind = true := by rwa [hprofile]
        rw [Hanyu.Stage.processAll, if_neg hm] at ht ⊢
        rw [Hanyu.Stage.processAll, if_neg hm'] at ht' ⊢
        exact ih hrest hl hl' ht ht'

end Chinese

namespace Pipeline

theorem supports_renewed (pipeline : Pipeline (Chinese.Stage σ ε)) (mode : Mode) :
    pipeline.renewed.supports mode = pipeline.supports mode := by
  have hkind : ∀ kind, pipeline.renewed.hasKind kind = pipeline.hasKind kind := by
    intro kind
    simp only [hasKind, renewed, ofProviders, List.any_map]
    refine congrArg (List.any pipeline.stages) (funext fun stage => ?_)
    exact congrArg (fun profile => profile.kind == kind) (Chinese.profile_renewed stage.provider)
  cases mode <;> simp only [supports, hkind]

/-- Pipelines that are the same when they are renewed answer alike, unless a run has to stop. -/
theorem process_congr {pipeline pipeline' : Pipeline (Chinese.Stage σ ε)}
    (hsame : pipeline.renewed = pipeline'.renewed)
    (h : ∀ stage ∈ pipeline.stages, stage.IsUsable)
    (h' : ∀ stage ∈ pipeline'.stages, stage.IsUsable)
    {context context' : RunContext σ} {mode : Mode} {batch : Batch} {s s' : Session σ}
    (ht : ¬context.cancellation.Stops (process context mode batch (pipeline, s)).2.2)
    (ht' : ¬context'.cancellation.Stops (process context' mode batch (pipeline', s')).2.2) :
    (process context mode batch (pipeline, s)).1 =
      (process context' mode batch (pipeline', s')).1 := by
  have hgo : ∀ (context : RunContext σ) (pipeline : Pipeline (Chinese.Stage σ ε)) (s : Session σ),
      ¬context.cancellation.Stops (process context mode batch (pipeline, s)).2.2 →
        context.cancellation.reason? s.signals = none := by
    intro context pipeline s ht
    have hs : ¬context.cancellation.Stops s := fun hs =>
      ht (Chinese.stops_pipeline_process context mode batch (pipeline, s) hs)
    exact Option.not_isSome_iff_eq_none.mp hs
  have hname : pipeline.name = pipeline'.name :=
    show pipeline.renewed.name = pipeline'.renewed.name by rw [hsame]
  have hsupports : pipeline.supports mode = pipeline'.supports mode := by
    rw [← supports_renewed, hsame, supports_renewed]
  have hstages : (pipeline.stages.map fun stage => Chinese.renewed stage.provider) =
      pipeline'.stages.map fun stage => Chinese.renewed stage.provider := by
    simpa [renewed, ofProviders, Stage.ofProvider, Function.comp_def] using
      congrArg (fun pipeline => pipeline.stages.map Stage.provider) hsame
  have hrejection : rejection? context mode batch (pipeline, s) =
      rejection? context' mode batch (pipeline', s') := by
    simp only [rejection?, hgo context pipeline s ht, hgo context' pipeline' s' ht', hname,
      hsupports]
  rw [process_eq_rejection] at ht ht' ⊢
  rw [process_eq_rejection]
  rw [hrejection] at ht ⊢
  cases hr : rejection? context' mode batch (pipeline', s') with
  | some fault => rfl
  | none =>
    rw [hr] at ht ht'
    exact Chinese.processAll_congr hstages h h' ht ht'

end Pipeline

namespace Chinese

/-- **The past does not show.** When engines always load, and segmenter and pronouncer are pure, a
pipeline for Chinese that has been configured, started, restarted, run and closed in any way makes
the same of a batch as a new one that has only been told the scheme passed last, if any. The runs
must not have to stop. -/
theorem process_applyAll {segmenter : Segmenter σ ε} {pronouncer : Pronouncer σ}
    (hloads : segmenter.AlwaysLoads) (hsegmenter : segmenter.IsPure)
    (hpronouncer : pronouncer.IsPure) (settings : Settings) (acts : List (Act σ))
    (context context' : RunContext σ) (mode : Mode) (batch : Batch) (s s' : Session σ) :
    let new := pipeline settings segmenter pronouncer .tone
    let used := Act.applyAll acts (new, s)
    let fresh := match Act.lastScheme? acts with
      | some scheme => (Pipeline.configure (.ofScheme scheme) (new, s')).2
      | none => (new, s')
    ¬context.cancellation.Stops (Pipeline.process context mode batch used).2.2 →
      ¬context'.cancellation.Stops (Pipeline.process context' mode batch fresh).2.2 →
        (Pipeline.process context mode batch used).1 =
          (Pipeline.process context' mode batch fresh).1 := by
  intro new used fresh ht ht'
  have hnew : ∀ stage ∈ new.stages, stage.IsUsable :=
    List.forall_mem_cons.mpr ⟨Stage.isUsable_ofProvider ⟨hloads, hsegmenter⟩ rfl,
      List.forall_mem_singleton.mpr (Stage.isUsable_ofProvider hpronouncer rfl)⟩
  have hall : ∀ acts (s : Session σ), ∀ stage ∈ (Act.applyAll acts (new, s)).1.stages,
      stage.IsUsable := fun acts s =>
    Act.applyAll_induction (P := fun state => ∀ stage ∈ state.1.stages, stage.IsUsable)
      (fun act state h => act.isUsable_apply h) acts hnew
  -- The new pipeline is in the same scheme after at most one operation.
  have hfresh : ∃ acts', fresh = Act.applyAll acts' (new, s') ∧
      Act.lastScheme? acts' = Act.lastScheme? acts := by
    cases hlast : Act.lastScheme? acts with
    | none => exact ⟨[], by simp only [fresh, hlast]; rfl, rfl⟩
    | some scheme =>
      refine ⟨[.configure (.ofScheme scheme)], by simp only [fresh, hlast]; rfl, ?_⟩
      simp [Act.lastScheme?, Act.scheme?, lookup_schemeOption]
  obtain ⟨acts', hf, hscheme⟩ := hfresh
  rw [hf] at ht' ⊢
  refine Pipeline.process_congr ?_ (hall acts s) (hall acts' s') ht ht'
  rw [Pipeline.renewed_applyAll, Pipeline.renewed_applyAll, hscheme]

/-- After a start, a run that was stopped, a run that was rejected, a forced restart and a close, a
pipeline still writes in the style that was chosen last. -/
theorem process_applyAll_alike :
    let segmenter := Segmenter.alike ⟨[['好']], [['n']]⟩
    let pronouncer : Pronouncer Unit := fun _ style _ =>
      .answer (.ok [[style.render "hao3".toList]])
    let context : RunContext Unit := .under ⟨⟨0⟩, none⟩
    let late : RunContext Unit := .under ⟨⟨0⟩, some 0⟩
    let batch : Batch := ⟨[['好']], []⟩
    let acts := [.start context, .configure (.ofScheme "finals".toList),
      .process late .combined batch, .process context .transliterate batch,
      .configure (.ofScheme "normal".toList), .restart context true, .configure [], .close]
    let new := pipeline Settings.standard segmenter pronouncer .tone
    let used := Act.applyAll acts (new, Session.start 0 ())
    let fresh := (Pipeline.configure (.ofScheme "normal".toList) (new, Session.start 0 ())).2
    let reading : Reading :=
      ⟨"hao".toList, "hao3".toList, [["hao".toList]], [["hao3".toList]], some 3, some 3, false⟩
    let out : Batch := .ofTokens [((Token.lexical ['好']).tagged ['n']).withReading reading]
    (Pipeline.process context .combined batch used).1 = .ok out ∧
      (Pipeline.process context .combined batch fresh).1 = .ok out := by
  intro segmenter pronouncer context late batch acts new used fresh reading out
  have hfresh : (Pipeline.process context .combined batch fresh).1 = .ok out := by decide +kernel
  have heq := @process_applyAll _ _ segmenter pronouncer (fun _ => ⟨(), rfl⟩)
    ⟨fun _ => .ok ⟨[['好']], [['n']]⟩, fun _ _ _ _ => rfl⟩
    ⟨fun _ style _ => .ok [[style.render "hao3".toList]], fun _ _ _ _ => rfl⟩
    Settings.standard acts context context .combined batch (Session.start 0 ()) (Session.start 0 ())
    (by decide +kernel) (by decide +kernel)
  exact ⟨heq.trans hfresh, hfresh⟩

end Chinese

end Hanyu
