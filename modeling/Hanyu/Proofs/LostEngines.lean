import Hanyu.Proofs.Readiness
import Mathlib.Data.List.Induction

/-!
# Lost engines

A forced restart takes the engine of a tokenizer away before it loads another one. When loading
fails and the tokenizer was ready, its stage stays ready, and the engine is lost.

* `Stage.IsBereft`: a tokenizer is ready without an engine.
* `Stage.isBereft_restart`: when a restart leaves a tokenizer bereft.
* `Act.LosesEngineAt`, `Act.MendsAt`: what makes the tokenizer at a place bereft, and what makes up
  for it. No other operation does either (`Act.isBereftAt_apply_iff`).
* `Act.isSound_apply_iff`: an operation keeps all stages sound exactly when it loses no engine.
* `Act.HaveLost`: operations in a row lose the engine at a place, and do not make up for it. These
  leave the tokenizer there bereft, and no others do (`Act.isBereftAt_applyAll_iff`).
-/

namespace Hanyu

variable {σ ε ρ α : Type}

/-! ## Stages -/

namespace Stage

/-- A tokenizer that is ready, with or without an engine. -/
def IsReadyTokenizer (stage : Stage (Chinese.Tokenizer σ ε ⊕ ρ)) : Prop :=
  stage.phase = .ready ∧ stage.provider.isLeft = true

/-- A tokenizer that is ready without an engine. -/
def IsBereft (stage : Stage (Chinese.Tokenizer σ ε ⊕ ρ)) : Prop :=
  stage.phase = .ready ∧ ∃ tokenizer, stage.provider = .inl tokenizer ∧ tokenizer.engine = none

theorem IsBereft.isReadyTokenizer {stage : Stage (Chinese.Tokenizer σ ε ⊕ ρ)} (h : stage.IsBereft) :
    stage.IsReadyTokenizer := by
  obtain ⟨hp, tokenizer, ht, -⟩ := h
  refine ⟨hp, ?_⟩
  rw [ht]
  rfl

theorem IsBereft.kind [Provider σ ρ] {stage : Stage (Chinese.Tokenizer σ ε ⊕ ρ)}
    (h : stage.IsBereft) : stage.profile.kind = .tokenizer := by
  obtain ⟨-, tokenizer, ht, -⟩ := h
  rw [profile, ht]
  rfl

theorem not_isBereft_of_isLeft_eq_false {stage : Stage (Chinese.Tokenizer σ ε ⊕ ρ)}
    (h : stage.provider.isLeft = false) : ¬stage.IsBereft := by
  intro hb
  rw [hb.isReadyTokenizer.2] at h
  cases h

/-- A stage is sound when its tokenizer holds no engine but a loaded one, and is not bereft. -/
theorem isSound_iff {stage : Stage (Chinese.Tokenizer σ ε ⊕ ρ)} :
    stage.IsSound ↔
      stage.OfTokenizer (fun tokenizer _ => tokenizer.HoldsLoaded) ∧ ¬stage.IsBereft := by
  constructor
  · intro h
    refine ⟨fun tokenizer ht => (h tokenizer ht).loaded, ?_⟩
    rintro ⟨hp, tokenizer, ht, he⟩
    have hsome := (h tokenizer ht).holds hp
    rw [he] at hsome
    cases hsome
  · rintro ⟨hl, hb⟩ tokenizer ht
    refine ⟨hl tokenizer ht, fun hp => ?_⟩
    rw [Option.isSome_iff_ne_none]
    exact fun he => hb ⟨hp, tokenizer, ht, he⟩

variable [Provider σ ρ]

/-- A provider that is no tokenizer is none after an operation. -/
theorem not_isBereft_perform_inr (operation : Operation) (after : Phase → Phase)
    (x : Attempt Fault (Chinese.Tokenizer σ ε × Session σ) α)
    (y : Attempt Fault (ρ × Session σ) α) (provider : ρ) (phase : Phase) (s : Session σ) :
    ¬(perform operation after (.either x y) (⟨.inr provider, phase⟩, s)).2.1.IsBereft := by
  refine not_isBereft_of_isLeft_eq_false ?_
  rw [(snd_perform operation after (.either x y) ⟨.inr provider, phase⟩ s).1]
  rfl

/-- Tokenizing leaves the stage as it is. -/
theorem stage_perform_process (tokenizer : Chinese.Tokenizer σ ε) (phase : Phase) (s : Session σ)
    (context : RunContext σ) (batch : Batch) :
    (perform .process id (Provider.process context batch)
        ((⟨.inl tokenizer, phase⟩ : Stage (Chinese.Tokenizer σ ε ⊕ ρ)), s)).2.1 =
      ⟨.inl tokenizer, phase⟩ := by
  simp only [perform]
  split
  · rename_i hx
    obtain ⟨_, rfl, htok⟩ := Attempt.either_inl_eq_iff.mp hx
    obtain ⟨rfl, -⟩ := Prod.mk.inj (Prod.mk.inj htok).2
    rfl
  · rename_i hx
    obtain ⟨_, rfl, htok⟩ := Attempt.either_inl_eq_iff.mp hx
    obtain ⟨rfl, -⟩ := Prod.mk.inj (Prod.mk.inj htok).2
    rfl

/-- Making a stage ready does not leave it bereft when it was not, and does not help it when it
was. -/
theorem isBereft_ensureReady (stage : Stage (Chinese.Tokenizer σ ε ⊕ ρ)) (s : Session σ) :
    (ensureReady (stage, s)).2.1.IsBereft ↔ stage.IsBereft := by
  cases h : ensureReady (stage, s) with
  | mk answer left =>
    obtain ⟨stage', t⟩ := left
    cases answer with
    | ok _ =>
      rcases ensureReady_ok h with ⟨-, rfl, -⟩ | ⟨hp, -, hstart⟩
      · rfl
      · -- It was not ready, and what has been started holds an engine.
        refine iff_of_false ?_ fun hb => hp hb.1
        rintro ⟨-, tokenizer, ht, he⟩
        dsimp only at ht
        rw [ht] at hstart
        obtain ⟨before, -, hload⟩ := Attempt.either_eq_inl hstart
        have hsome := Chinese.Tokenizer.isSome_of_loadEngine_ok hload
        rw [he] at hsome
        cases hsome
    | error fault =>
      obtain ⟨hp, hp', -⟩ := ensureReady_error h
      exact iff_of_false (fun hb => hp (hp' ▸ hb.1)) fun hb => hp hb.1

theorem isBereft_process (context : RunContext σ) (batch : Batch)
    (stage : Stage (Chinese.Tokenizer σ ε ⊕ ρ)) (s : Session σ) :
    (process context batch (stage, s)).2.1.IsBereft ↔ stage.IsBereft := by
  rw [← isBereft_ensureReady stage s]
  rcases process_cases context batch stage s with
    ⟨fault, stage', t, hr, hp⟩ | ⟨⟨provider, phase⟩, t, hr, -, hp⟩
  · rw [hr, hp]
  · rw [hr, hp]
    cases provider with
    | inl tokenizer => rw [stage_perform_process]
    | inr provider =>
      exact iff_of_false (not_isBereft_perform_inr _ _ _ _ provider phase t)
        (not_isBereft_of_isLeft_eq_false rfl)

/-- A stage that was released is not ready. -/
theorem not_isBereft_release (stage : Stage (Chinese.Tokenizer σ ε ⊕ ρ)) (s : Session σ) :
    ¬(release (stage, s)).2.1.IsBereft := by
  intro hb
  rw [release] at hb
  split at hb
  · rename_i hp
    have hready := hb.1
    rw [hp] at hready
    cases hready
  · obtain ⟨provider, phase⟩ := stage
    cases provider with
    | inl tokenizer => cases hb.1
    | inr provider => exact not_isBereft_perform_inr _ _ _ _ provider phase s hb

/-- A restart that succeeds leaves no tokenizer without an engine. -/
theorem not_isBereft_of_restart_ok {fresh : Bool} {stage stage' : Stage (Chinese.Tokenizer σ ε ⊕ ρ)}
    {s t : Session σ} (h : restart fresh (stage, s) = (.ok (), stage', t)) : ¬stage'.IsBereft := by
  rintro ⟨-, tokenizer, ht, he⟩
  obtain ⟨hx, -⟩ := perform_ok h
  rw [ht] at hx
  obtain ⟨before, -, hb⟩ := Attempt.either_eq_inl hx
  rw [Chinese.Tokenizer.restart_eq] at hb
  have hsome := Chinese.Tokenizer.isSome_of_loadEngine_ok hb
  rw [he] at hsome
  cases hsome

/-- A restart that fails but takes no engine away leaves a tokenizer as it was. -/
theorem isBereft_of_restart_false_error {stage stage' : Stage (Chinese.Tokenizer σ ε ⊕ ρ)}
    {s t : Session σ} {fault : Fault} (h : restart false (stage, s) = (.error fault, stage', t)) :
    stage'.IsBereft ↔ stage.IsBereft := by
  obtain ⟨cause, hx, hp, -⟩ := perform_error h
  cases ht : stage.provider with
  | inl tokenizer =>
    rw [ht] at hx
    obtain ⟨after, ha, hload⟩ := Attempt.either_inl_eq_iff.mp hx
    obtain ⟨rfl, -⟩ := Chinese.Tokenizer.loadEngine_error hload
    rw [IsBereft, IsBereft, hp, ha, ht]
  | inr provider =>
    refine iff_of_false (not_isBereft_of_isLeft_eq_false ?_) (not_isBereft_of_isLeft_eq_false ?_)
    · rw [Attempt.isLeft_either hx, ht]
      rfl
    · rw [ht]
      rfl

/-- A forced restart that fails leaves a tokenizer without an engine, and ready when it was. -/
theorem isBereft_of_restart_true_error {stage stage' : Stage (Chinese.Tokenizer σ ε ⊕ ρ)}
    {s t : Session σ} {fault : Fault} (h : restart true (stage, s) = (.error fault, stage', t)) :
    stage'.IsBereft ↔ stage.IsReadyTokenizer := by
  obtain ⟨cause, hx, hp, -⟩ := perform_error h
  have hleft : stage'.provider.isLeft = stage.provider.isLeft := Attempt.isLeft_either hx
  constructor
  · intro hb
    obtain ⟨hready, hl⟩ := hb.isReadyTokenizer
    exact ⟨hp ▸ hready, hleft ▸ hl⟩
  · rintro ⟨hready, hl⟩
    obtain ⟨tokenizer, ht⟩ := Sum.isLeft_iff.mp (hleft.trans hl)
    refine ⟨hp.trans hready, tokenizer, ht, ?_⟩
    rw [ht] at hx
    obtain ⟨before, -, hb⟩ := Attempt.either_eq_inl hx
    obtain ⟨rfl, he, -⟩ := Chinese.Tokenizer.loadEngine_error hb
    exact he

/-- A restart leaves a tokenizer bereft when it is forced and fails at a ready one, or when it fails
at one that was bereft. -/
theorem isBereft_restart (fresh : Bool) (stage : Stage (Chinese.Tokenizer σ ε ⊕ ρ))
    (s : Session σ) :
    (restart fresh (stage, s)).2.1.IsBereft ↔
      (fresh = true ∧ stage.IsReadyTokenizer ∧
          ∃ fault, (restart fresh (stage, s)).1 = .error fault) ∨
        stage.IsBereft ∧ (restart fresh (stage, s)).1 ≠ .ok () := by
  cases h : restart fresh (stage, s) with
  | mk answer left =>
    obtain ⟨stage', t⟩ := left
    cases answer with
    | ok _ => simp [not_isBereft_of_restart_ok h]
    | error fault =>
      cases fresh with
      | false => simp [isBereft_of_restart_false_error h]
      | true =>
        simp only [isBereft_of_restart_true_error h, true_and]
        constructor
        · exact fun hready => .inl ⟨hready, fault, rfl⟩
        · rintro (⟨hready, -⟩ | ⟨hb, -⟩)
          · exact hready
          · exact hb.isReadyTokenizer

end Stage

/-- A step of an operation other than a restart or closing makes no tokenizer bereft, and helps none
that is. -/
theorem Act.Step.isBereft_iff [Provider σ ρ] {act : Act σ}
    {state state' : Stage (Chinese.Tokenizer σ ε ⊕ ρ) × Session σ} (h : act.Step state state')
    (hr : ∀ context fresh, act ≠ .restart context fresh) (hc : act ≠ .close) :
    state'.1.IsBereft ↔ state.1.IsBereft := by
  cases h with
  | configure options =>
    obtain ⟨⟨provider, phase⟩, s⟩ := state
    cases provider with
    | inl tokenizer => rfl
    | inr provider =>
      exact iff_of_false (Stage.not_isBereft_perform_inr _ _ _ _ provider phase s)
        (Stage.not_isBereft_of_isLeft_eq_false rfl)
  | start context => exact Stage.isBereft_ensureReady _ _
  | restart context fresh => exact absurd rfl (hr context fresh)
  | process context mode batch reached done stage s => exact Stage.isBereft_process _ _ _ _
  | close => exact absurd rfl hc

/-! ## Operations -/

/-- The tokenizer at a place is ready without an engine. -/
def Pipeline.IsBereftAt (pipeline : Pipeline (Chinese.Tokenizer σ ε ⊕ ρ)) (place : Nat) : Prop :=
  ∃ stage, pipeline.stages[place]? = some stage ∧ stage.IsBereft

theorem Pipeline.isBereftAt_congr {pipeline pipeline' : Pipeline (Chinese.Tokenizer σ ε ⊕ ρ)}
    (h : pipeline'.stages.map Stage.IsBereft = pipeline.stages.map Stage.IsBereft) (place : Nat) :
    pipeline'.IsBereftAt place ↔ pipeline.IsBereftAt place := by
  have hiff : ∀ p : Pipeline (Chinese.Tokenizer σ ε ⊕ ρ),
      p.IsBereftAt place ↔ (p.stages.map Stage.IsBereft)[place]? = some True := by
    intro p
    simp [IsBereftAt]
  rw [hiff, hiff, h]

variable [Provider σ ρ]

/-- A forced restart comes to a ready tokenizer at a place, and fails there. -/
inductive Act.LosesEngineAt (state : Pipeline (Chinese.Tokenizer σ ε ⊕ ρ) × Session σ)
    (place : Nat) : Act σ → Prop where
  | restart {context : RunContext σ} {stage : Stage (Chinese.Tokenizer σ ε ⊕ ρ)} {t : Session σ}
    {fault : Fault} (hc : (context.check state.2).1 = .ok ())
    (ha : Stage.arrival (Stage.restart true) state.1.stages state.2 place = some (stage, t))
    (hready : stage.IsReadyTokenizer) (hf : (Stage.restart true (stage, t)).1 = .error fault) :
    LosesEngineAt state place (.restart context true)

/-- A restart comes to a place and succeeds there, or the pipeline is closed. -/
inductive Act.MendsAt (state : Pipeline (Chinese.Tokenizer σ ε ⊕ ρ) × Session σ) (place : Nat) :
    Act σ → Prop where
  | restart {context : RunContext σ} {fresh : Bool} {stage : Stage (Chinese.Tokenizer σ ε ⊕ ρ)}
    {t : Session σ} (hc : (context.check state.2).1 = .ok ())
    (ha : Stage.arrival (Stage.restart fresh) state.1.stages state.2 place = some (stage, t))
    (hok : (Stage.restart fresh (stage, t)).1 = .ok ()) : MendsAt state place (.restart context fresh)
  | close : MendsAt state place .close

/-- Closing leaves no tokenizer ready. -/
theorem Pipeline.not_isBereftAt_close (state : Pipeline (Chinese.Tokenizer σ ε ⊕ ρ) × Session σ)
    (place : Nat) : ¬(Act.apply .close state).1.IsBereftAt place := by
  rintro ⟨stage', hs, hb⟩
  obtain ⟨stage, -, t, rfl⟩ := Stage.exists_of_mem_releaseAll (List.mem_of_getElem? hs)
  exact Stage.not_isBereft_release stage t hb

section Restart

variable {state : Pipeline (Chinese.Tokenizer σ ε ⊕ ρ) × Session σ} {context : RunContext σ}
  {fresh : Bool} {place : Nat}

section Arrival

variable {stage : Stage (Chinese.Tokenizer σ ε ⊕ ρ)} {t : Session σ}
  (hc : (context.check state.2).1 = .ok ())
  (ha : Stage.arrival (Stage.restart fresh) state.1.stages state.2 place = some (stage, t))
include hc ha

theorem Act.losesEngineAt_restart_iff :
    (restart context fresh).LosesEngineAt state place ↔ fresh = true ∧ stage.IsReadyTokenizer ∧
      ∃ fault, (Stage.restart fresh (stage, t)).1 = .error fault := by
  constructor
  · rintro ⟨-, ha', hready, hf⟩
    obtain ⟨rfl, rfl⟩ := Prod.mk.inj (Option.some.inj (ha.symm.trans ha'))
    exact ⟨rfl, hready, _, hf⟩
  · rintro ⟨rfl, hready, fault, hf⟩
    exact .restart hc ha hready hf

theorem Act.mendsAt_restart_iff :
    (restart context fresh).MendsAt state place ↔ (Stage.restart fresh (stage, t)).1 = .ok () := by
  constructor
  · rintro (⟨-, ha', hok⟩ | _)
    obtain ⟨rfl, rfl⟩ := Prod.mk.inj (Option.some.inj (ha.symm.trans ha'))
    exact hok
  · exact fun hok => .restart hc ha hok

theorem Act.isBereftAt_restart_of_arrival :
    ((restart context fresh).apply state).1.IsBereftAt place ↔
      (restart context fresh).LosesEngineAt state place ∨
        state.1.IsBereftAt place ∧ ¬(restart context fresh).MendsAt state place := by
  have hbefore : state.1.IsBereftAt place ↔ stage.IsBereft := by
    rw [Pipeline.IsBereftAt, Stage.getElem?_of_arrival ha]
    simp
  have hafter : ((restart context fresh).apply state).1.IsBereftAt place ↔
      (Stage.restart fresh (stage, t)).2.1.IsBereft := by
    rw [apply, Pipeline.restart, Pipeline.check_bind, hc]
    simp [Pipeline.IsBereftAt, Pipeline.onStages, Stage.getElem?_forAll, ha]
  rw [hafter, hbefore, losesEngineAt_restart_iff hc ha, mendsAt_restart_iff hc ha,
    Stage.isBereft_restart]

end Arrival

/-- A restart that does not come to a place changes nothing there. -/
theorem Act.isBereftAt_restart_of_not_arrival
    (h : (context.check state.2).1 = .ok () →
      Stage.arrival (Stage.restart fresh) state.1.stages state.2 place = none) :
    ((restart context fresh).apply state).1.IsBereftAt place ↔
      (restart context fresh).LosesEngineAt state place ∨
        state.1.IsBereftAt place ∧ ¬(restart context fresh).MendsAt state place := by
  have hsame : ((restart context fresh).apply state).1.stages[place]? = state.1.stages[place]? := by
    rw [apply, Pipeline.restart, Pipeline.check_bind]
    split
    · rename_i hc
      simp [Pipeline.onStages, Stage.getElem?_forAll, h hc]
    · rfl
  have hl : ¬(restart context fresh).LosesEngineAt state place := by
    rintro ⟨hc, ha, -, -⟩
    rw [h hc] at ha
    cases ha
  have hm : ¬(restart context fresh).MendsAt state place := by
    rintro (⟨hc, ha, -⟩ | _)
    rw [h hc] at ha
    cases ha
  simp [Pipeline.IsBereftAt, hsame, hl, hm]

end Restart

/-- The tokenizer at a place is bereft after an operation when the operation loses its engine, or
when it was bereft and the operation does not make up for it. -/
theorem Act.isBereftAt_apply_iff (act : Act σ)
    (state : Pipeline (Chinese.Tokenizer σ ε ⊕ ρ) × Session σ) (place : Nat) :
    (act.apply state).1.IsBereftAt place ↔
      act.LosesEngineAt state place ∨ state.1.IsBereftAt place ∧ ¬act.MendsAt state place := by
  by_cases hr : ∃ context fresh, act = .restart context fresh
  · obtain ⟨context, fresh, rfl⟩ := hr
    by_cases hc : (context.check state.2).1 = .ok ()
    · cases ha : Stage.arrival (Stage.restart fresh) state.1.stages state.2 place with
      | none => exact isBereftAt_restart_of_not_arrival fun _ => ha
      | some left => exact isBereftAt_restart_of_arrival hc ha
    · exact isBereftAt_restart_of_not_arrival fun h => absurd h hc
  by_cases hc : act = .close
  · subst hc
    refine iff_of_false (Pipeline.not_isBereftAt_close state place) ?_
    rintro (h | ⟨-, h⟩)
    · cases h
    · exact h .close
  have hl : ¬act.LosesEngineAt state place := by
    rintro ⟨⟩
    exact hr ⟨_, _, rfl⟩
  have hm : ¬act.MendsAt state place := by
    rintro (_ | _)
    · exact hr ⟨_, _, rfl⟩
    · exact hc rfl
  -- The other operations leave all stages as they are in this respect, those at which they fail too.
  have hsame := act.map_stages_apply (f := Stage.IsBereft) (fun _ _ hstep =>
    propext (hstep.isBereft_iff (fun context fresh h => hr ⟨context, fresh, h⟩) hc)) state
  rw [Pipeline.isBereftAt_congr hsame place]
  simp only [hl, hm, false_or, not_false_eq_true, and_true]

/-! ## Soundness -/

/-- The tokenizers of a pipeline hold no engines but loaded ones. -/
def Pipeline.HoldsLoaded (pipeline : Pipeline (Chinese.Tokenizer σ ε ⊕ ρ)) : Prop :=
  ∀ stage ∈ pipeline.stages, stage.OfTokenizer fun tokenizer _ => tokenizer.HoldsLoaded

omit [Provider σ ρ] in
theorem Pipeline.isSound_iff {pipeline : Pipeline (Chinese.Tokenizer σ ε ⊕ ρ)} :
    pipeline.IsSound ↔ pipeline.HoldsLoaded ∧ ∀ place, ¬pipeline.IsBereftAt place := by
  constructor
  · intro h
    refine ⟨fun stage hm => (Stage.isSound_iff.mp (h stage hm)).1, ?_⟩
    rintro place ⟨stage, hs, hb⟩
    exact (Stage.isSound_iff.mp (h stage (List.mem_of_getElem? hs))).2 hb
  · rintro ⟨hl, hb⟩ stage hm
    obtain ⟨place, hs⟩ := List.mem_iff_getElem?.mp hm
    exact Stage.isSound_iff.mpr ⟨hl stage hm, fun h => hb place ⟨stage, hs, h⟩⟩

/-- No operation gives a tokenizer an engine that was not loaded. -/
theorem Pipeline.HoldsLoaded.apply {state : Pipeline (Chinese.Tokenizer σ ε ⊕ ρ) × Session σ}
    (h : state.1.HoldsLoaded) (act : Act σ) : (act.apply state).1.HoldsLoaded :=
  Act.ofTokenizer_apply Chinese.Tokenizer.isStable_holdsLoaded
    (fun _ _ tokenizer _ s _ => Chinese.Tokenizer.holdsLoaded_of_none
      (Chinese.Tokenizer.engine_dropEngine tokenizer s)) state h

theorem Pipeline.HoldsLoaded.applyAll {state : Pipeline (Chinese.Tokenizer σ ε ⊕ ρ) × Session σ}
    (h : state.1.HoldsLoaded) (acts : List (Act σ)) : (Act.applyAll acts state).1.HoldsLoaded :=
  Act.applyAll_induction (P := fun state => state.1.HoldsLoaded) (fun act _ h => h.apply act) acts h

/-- An operation keeps all stages sound exactly when it does not lose an engine. -/
theorem Act.isSound_apply_iff {act : Act σ}
    {state : Pipeline (Chinese.Tokenizer σ ε ⊕ ρ) × Session σ} (hs : state.1.IsSound) :
    (act.apply state).1.IsSound ↔ ∀ place, ¬act.LosesEngineAt state place := by
  obtain ⟨hl, hb⟩ := Pipeline.isSound_iff.mp hs
  simp only [Pipeline.isSound_iff, hl.apply act, act.isBereftAt_apply_iff, hb, false_and, or_false,
    true_and]

/-! ## Operations in a row -/

/-- A forced restart has lost the engine of the tokenizer at a place, and no operation has made up
for it since. -/
inductive Act.HaveLost (start : Pipeline (Chinese.Tokenizer σ ε ⊕ ρ) × Session σ) (place : Nat) :
    List (Act σ) → Prop where
  | now {acts : List (Act σ)} {act : Act σ} (h : act.LosesEngineAt (applyAll acts start) place) :
    HaveLost start place (acts ++ [act])
  | still {acts : List (Act σ)} {act : Act σ} (h : HaveLost start place acts)
    (hm : ¬act.MendsAt (applyAll acts start) place) : HaveLost start place (acts ++ [act])

theorem Act.applyAll_concat {π : Type} [Provider σ π] (acts : List (Act σ)) (act : Act σ)
    (state : Pipeline π × Session σ) :
    applyAll (acts ++ [act]) state = act.apply (applyAll acts state) := by
  rw [applyAll, List.foldl_concat]
  rfl

/-- When no tokenizer is bereft in the beginning, those are bereft in the end that have lost their
engines on the way. -/
theorem Act.isBereftAt_applyAll_iff {start : Pipeline (Chinese.Tokenizer σ ε ⊕ ρ) × Session σ}
    {place : Nat} (h : ¬start.1.IsBereftAt place) (acts : List (Act σ)) :
    (applyAll acts start).1.IsBereftAt place ↔ HaveLost start place acts := by
  constructor
  · induction acts using List.reverseRecOn with
    | nil => exact fun hb => absurd hb h
    | append_singleton acts act ih =>
      rw [applyAll_concat, act.isBereftAt_apply_iff]
      rintro (hl | ⟨hb, hm⟩)
      · exact .now hl
      · exact .still (ih hb) hm
  · intro hl
    induction hl with
    | now hl =>
      rw [applyAll_concat, isBereftAt_apply_iff]
      exact .inl hl
    | still _ hm ih =>
      rw [applyAll_concat, isBereftAt_apply_iff]
      exact .inr ⟨ih, hm⟩

end Hanyu
