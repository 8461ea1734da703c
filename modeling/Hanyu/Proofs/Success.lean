import Hanyu.Pipeline
import Mathlib.Data.List.Forall2

/-!
# Successful runs

What a run that succeeds is made of.

* `mapM_eq_ok_iff`: a list is checked with success when each of its items is.
* `Attempt.bind_ok`: both parts of a successful attempt succeed.
* `Attempt.between_bind`: what both parts do to the state, whether they succeed or not.
* `RunContext.workThrough_ok`: every item has been worked on with success, in order.
* `RunContext.workThrough_congr`: items that are worked on alike are worked through alike.
* `Stage.process_ok`: the stage was ready, and its provider succeeded.
* `Stage.processAll_ok`: what no stage breaks, no run through stages breaks.
* `Pipeline.process_ok`: the mode was admitted, and its stages succeeded.
-/

namespace Hanyu

/-! ## Checked lists -/

section Checked

variable {ε α β : Type} {f : α → Except ε β} {xs : List α} {ys : List β}

/-- A list is checked with success when each of its items is, and has their results. -/
theorem mapM_eq_ok_iff : xs.mapM f = .ok ys ↔ List.Forall₂ (fun x y => f x = .ok y) xs ys := by
  induction xs generalizing ys with
  | nil => cases ys <;> simp [pure, Except.pure]
  | cons x xs ih =>
    rw [List.mapM_cons]
    cases hx : f x with
    | error e => cases ys <;> simp [bind, Except.bind, hx]
    | ok y =>
      cases hxs : xs.mapM f with
      | error e => cases ys <;> simp [bind, Except.bind, hx, ← ih, hxs]
      | ok rest => cases ys <;> simp [bind, Except.bind, pure, Except.pure, hx, ← ih, hxs]

theorem exists_mapM_eq_ok_iff : (∃ ys, xs.mapM f = .ok ys) ↔ ∀ x ∈ xs, ∃ y, f x = .ok y := by
  simp only [mapM_eq_ok_iff]
  constructor
  · rintro ⟨ys, h⟩
    induction h with
    | nil => exact fun _ hx => nomatch hx
    | cons hx _ ih => exact List.forall_mem_cons.mpr ⟨⟨_, hx⟩, ih⟩
  · intro h
    induction xs with
    | nil => exact ⟨[], .nil⟩
    | cons x xs ih =>
      obtain ⟨⟨y, hx⟩, hxs⟩ := List.forall_mem_cons.mp h
      obtain ⟨ys, hys⟩ := ih hxs
      exact ⟨y :: ys, .cons hx hys⟩

end Checked

/-! ## Attempts -/

namespace Attempt

variable {ε σ α β : Type}

/-- The results of attempts can be compared. -/
instance decidableEqResult [DecidableEq ε] [DecidableEq α] : DecidableEq (Except ε α)
  | .ok a, .ok b => decidable_of_iff (a = b) (by simp)
  | .error e, .error f => decidable_of_iff (e = f) (by simp)
  | .ok _, .error _ => isFalse (by simp)
  | .error _, .ok _ => isFalse (by simp)

theorem bind_ok {x : Attempt ε σ α} {f : α → Attempt ε σ β} {s t : σ} {b : β}
    (h : (x >>= f) s = (.ok b, t)) : ∃ a u, x s = (.ok a, u) ∧ f a u = (.ok b, t) := by
  change andThen x f s = (.ok b, t) at h
  unfold andThen at h
  split at h
  · rename_i a u hx
    exact ⟨a, u, hx, h⟩
  · cases h

/-- What holds between the states before and after each part holds for both parts together, when it
can be passed on. -/
theorem between_bind {R : σ → σ → Prop} {x : Attempt ε σ α} {f : α → Attempt ε σ β}
    (trans : ∀ {s t u}, R s t → R t u → R s u) (hx : ∀ s, R s (x s).2)
    (hf : ∀ a s, R s (f a s).2) (s : σ) : R s ((x >>= f) s).2 := by
  have hfirst := hx s
  change R s (andThen x f s).2
  unfold andThen
  split
  · rename_i a t h
    rw [h] at hfirst
    exact trans hfirst (hf a t)
  · rename_i e t h
    rw [h] at hfirst
    exact hfirst

theorem pure_ok {a b : α} {s t : σ} (h : (pure a : Attempt ε σ α) s = (.ok b, t)) :
    b = a ∧ t = s := by
  cases h
  exact ⟨rfl, rfl⟩

/-- A part that is made under a condition only. -/
theorem when_ok {c : Prop} [Decidable c] {x : Attempt ε σ Unit} {f : Unit → Attempt ε σ β}
    {s t : σ} {b : β} (h : (if c then x >>= f else f ()) s = (.ok b, t)) :
    ∃ u, f () u = (.ok b, t) := by
  by_cases hc : c
  · rw [if_pos hc] at h
    obtain ⟨_, u, -, h⟩ := bind_ok h
    exact ⟨u, h⟩
  · rw [if_neg hc] at h
    exact ⟨s, h⟩

section Either

variable {π ρ : Type} {x : Attempt ε (π × σ) α} {y : Attempt ε (ρ × σ) α} {provider provider' : π ⊕ ρ}
  {s t : σ} {result : Except ε α}

theorem either_eq_inl {left' : π} (h : either x y (provider, s) = (result, .inl left', t)) :
    ∃ left, provider = .inl left ∧ x (left, s) = (result, left', t) := by
  cases provider with
  | inl left =>
    obtain ⟨h₁, h₂⟩ := Prod.mk.inj h
    obtain ⟨h₃, h₄⟩ := Prod.mk.inj h₂
    exact ⟨left, rfl, Prod.ext h₁ (Prod.ext (Sum.inl.inj h₃) h₄)⟩
  | inr right =>
    obtain ⟨-, h₂⟩ := Prod.mk.inj h
    cases (Prod.mk.inj h₂).1

theorem either_inl_eq_iff {left : π} :
    either x y (.inl left, s) = (result, provider', t) ↔
      ∃ left', provider' = .inl left' ∧ x (left, s) = (result, left', t) := by
  constructor
  · intro h
    obtain ⟨h₁, h₂⟩ := Prod.mk.inj h
    obtain ⟨h₃, h₄⟩ := Prod.mk.inj h₂
    exact ⟨_, h₃.symm, Prod.ext h₁ (Prod.ext rfl h₄)⟩
  · rintro ⟨left', rfl, h⟩
    simp only [either, h]

theorem isLeft_either (h : either x y (provider, s) = (result, provider', t)) :
    provider'.isLeft = provider.isLeft := by
  cases provider <;> cases (Prod.mk.inj (Prod.mk.inj h).2).1 <;> rfl

end Either

end Attempt

/-! ## Working through items -/

namespace RunContext

variable {σ α β : Type} {context : RunContext σ} {work : α → Attempt Fault (Session σ) β}

theorem check_ok {s t : Session σ} (h : context.check s = (.ok (), t)) : t = s :=
  (Prod.mk.inj h).2.symm

/-- Working through items goes from one to the next, and shows each when it is done. -/
theorem workFrom_cons_ok {interval total place : Nat} {item : α} {items : List α} {results : List β}
    {s t : Session σ}
    (h : context.workFrom interval total work place (item :: items) s = (.ok results, t)) :
    ∃ result rest u, work item s = (.ok result, u) ∧
      context.workFrom interval total work (place + 1) items
        (context.reported (.ofNat (place + 1)) (.ofNat total) u) = (.ok rest, t) ∧
      results = result :: rest := by
  have hsteps : (work item >>= fun result => context.report (place + 1) total >>= fun _ =>
      context.workFrom interval total work (place + 1) items >>= fun rest =>
        pure (result :: rest)) s = (.ok results, t) := by
    rw [workFrom] at h
    by_cases hc : place % interval = 0
    · rw [if_pos hc] at h
      obtain ⟨_, u, hu, h⟩ := Attempt.bind_ok h
      rwa [check_ok hu] at h
    · rwa [if_neg hc] at h
  obtain ⟨result, u, hw, h₁⟩ := Attempt.bind_ok hsteps
  obtain ⟨_, v, hv, h₂⟩ := Attempt.bind_ok h₁
  obtain ⟨rest, w, hr, h₃⟩ := Attempt.bind_ok h₂
  obtain ⟨rfl, rfl⟩ := Attempt.pure_ok h₃
  obtain rfl : v = _ := (Prod.mk.inj hv).2.symm
  exact ⟨result, rest, u, hw, hr, rfl⟩

/-- `R` relates the items to the results when it does so for every item that was worked on. -/
theorem workFrom_ok {R : List α → List β → Prop} (nil : R [] [])
    (cons : ∀ item items result results s t, work item s = (.ok result, t) → R items results →
      R (item :: items) (result :: results))
    {interval total place : Nat} {items : List α} {results : List β} {s t : Session σ}
    (h : context.workFrom interval total work place items s = (.ok results, t)) :
    R items results := by
  induction items generalizing place results s t with
  | nil =>
    obtain ⟨rfl, -⟩ := Attempt.pure_ok h
    exact nil
  | cons item items ih =>
    obtain ⟨result, rest, u, hw, hr, rfl⟩ := workFrom_cons_ok h
    exact cons _ _ _ _ _ _ hw (ih hr)

theorem workThrough_ok {R : List α → List β → Prop} (nil : R [] [])
    (cons : ∀ item items result results s t, work item s = (.ok result, t) → R items results →
      R (item :: items) (result :: results))
    {interval : Nat} {items : List α} {results : List β} {s t : Session σ}
    (h : context.workThrough interval work items s = (.ok results, t)) : R items results := by
  obtain ⟨worked, s₁, hw, h₁⟩ := Attempt.bind_ok h
  obtain ⟨_, s₂, -, h₂⟩ := Attempt.bind_ok h₁
  obtain ⟨rfl, -⟩ := Attempt.pure_ok h₂
  exact workFrom_ok nil cons hw

section Alike

variable {α' : Type} {work' : α' → Attempt Fault (Session σ) β} {items : List α} {items' : List α'}

theorem workFrom_congr (context : RunContext σ) (interval total place : Nat)
    (h : List.Forall₂ (fun item item' => work' item' = work item) items items') :
    context.workFrom interval total work' place items' =
      context.workFrom interval total work place items := by
  induction h generalizing place with
  | nil => rfl
  | cons hitem _ ih => simp only [workFrom, hitem, ih]

/-- Items that are worked on alike are worked through alike. -/
theorem workThrough_congr (context : RunContext σ) (interval : Nat)
    (h : List.Forall₂ (fun item item' => work' item' = work item) items items') :
    context.workThrough interval work' items' = context.workThrough interval work items := by
  simp only [workThrough, h.length_eq, workFrom_congr context interval _ 0 h]

end Alike

end RunContext

/-! ## Stages -/

namespace Stage

variable {σ π α : Type} [Provider σ π]

theorem perform_ok {operation : Operation} {after : Phase → Phase}
    {x : Attempt Fault (π × Session σ) α} {stage stage' : Stage π} {s t : Session σ} {a : α}
    (h : perform operation after x (stage, s) = (.ok a, stage', t)) :
    x (stage.provider, s) = (.ok a, stage'.provider, t) ∧ stage'.phase = after stage.phase := by
  simp only [perform] at h
  split at h
  · rename_i hx
    cases h
    exact ⟨hx, rfl⟩
  · cases h

theorem ensureReady_ok {stage stage' : Stage π} {s t : Session σ}
    (h : ensureReady (stage, s) = (.ok (), stage', t)) :
    (stage.phase = .ready ∧ stage' = stage ∧ t = s) ∨
      (stage.phase ≠ .ready ∧ stage'.phase = .ready ∧
        Provider.start (stage.provider, s) = (.ok (), stage'.provider, t)) := by
  simp only [ensureReady] at h
  split at h
  · rename_i hp
    cases h
    exact .inl ⟨hp, rfl, rfl⟩
  · rename_i hp
    obtain ⟨hx, ha⟩ := perform_ok h
    exact .inr ⟨hp, ha, hx⟩

theorem process_ok {context : RunContext σ} {batch out : Batch} {stage stage' : Stage π}
    {s t : Session σ} (h : process context batch (stage, s) = (.ok out, stage', t)) :
    ∃ ready u, ensureReady (stage, s) = (.ok (), ready, u) ∧
      Provider.process context batch (ready.provider, u) = (.ok out, stage'.provider, t) := by
  obtain ⟨_, ⟨ready, u⟩, hr, hp⟩ := Attempt.bind_ok h
  exact ⟨ready, u, hr, (perform_ok hp).1⟩

/-- The stages that a mode selects succeed one after the other, and the others are left out. -/
theorem processAll_cons_ok {context : RunContext σ} {mode : Mode} {done : UInt64} {batch out : Batch}
    {stage : Stage π} {stages stages' : List (Stage π)} {s t : Session σ}
    (h : processAll context mode done batch (stage :: stages) s = (.ok out, stages', t)) :
    (mode.selects stage.profile.kind = false ∧ ∃ later,
        processAll context mode done batch stages s = (.ok out, later, t)) ∨
      (mode.selects stage.profile.kind = true ∧ ∃ between stage' u later,
        process (context.offset done) batch (stage, { s with stageTotal := 0 }) =
            (.ok between, stage', u) ∧
          processAll context mode (done + u.stageTotal) between stages u =
            (.ok out, later, t)) := by
  rw [processAll] at h
  by_cases hm : mode.selects stage.profile.kind = true
  · rw [if_pos hm] at h
    split at h
    · cases h
    · rename_i between stage' u hp
      obtain ⟨h₁, h₂⟩ := Prod.mk.inj h
      exact .inr ⟨hm, between, stage', u, _, hp, Prod.ext h₁ (Prod.ext rfl (Prod.mk.inj h₂).2)⟩
  · rw [if_neg hm] at h
    obtain ⟨h₁, h₂⟩ := Prod.mk.inj h
    exact .inl ⟨by simpa using hm, _, Prod.ext h₁ (Prod.ext rfl (Prod.mk.inj h₂).2)⟩

/-- `R` relates the batch of a run to its outcome when it does so for every stage. -/
theorem processAll_ok {R : Batch → Batch → Prop} (refl : ∀ batch, R batch batch)
    (trans : ∀ a b c, R a b → R b c → R a c)
    (step : ∀ (context : RunContext σ) (batch out : Batch) (stage stage' : Stage π)
      (s t : Session σ), process context batch (stage, s) = (.ok out, stage', t) → R batch out)
    {context : RunContext σ} {mode : Mode} {done : UInt64} {batch out : Batch}
    {stages stages' : List (Stage π)} {s t : Session σ}
    (h : processAll context mode done batch stages s = (.ok out, stages', t)) : R batch out := by
  induction stages generalizing done batch stages' s with
  | nil =>
    cases h
    exact refl _
  | cons stage stages ih =>
    rcases processAll_cons_ok h with ⟨-, later, h⟩ | ⟨-, between, stage', u, later, hp, h⟩
    · exact ih h
    · exact trans _ _ _ (step _ _ _ _ _ _ _ hp) (ih h)

end Stage

/-! ## Pipelines -/

namespace Pipeline

variable {σ π α : Type} [Provider σ π]

omit [Provider σ π] in
theorem onStages_ok {x : List (Stage π) → Session σ → Stage.Outcome σ π α}
    {pipeline pipeline' : Pipeline π} {s t : Session σ} {a : α}
    (h : onStages x (pipeline, s) = (.ok a, pipeline', t)) :
    x pipeline.stages s = (.ok a, pipeline'.stages, t) := by
  obtain ⟨h₁, h₂⟩ := Prod.mk.inj h
  obtain ⟨rfl, h₃⟩ := Prod.mk.inj h₂
  exact Prod.ext h₁ (Prod.ext rfl h₃)

omit [Provider σ π] in
theorem check_ok {context : RunContext σ} {pipeline pipeline' : Pipeline π} {s t : Session σ}
    (h : check context (pipeline, s) = (.ok (), pipeline', t)) : pipeline' = pipeline ∧ t = s := by
  obtain ⟨-, h⟩ := Prod.mk.inj h
  obtain ⟨rfl, rfl⟩ := Prod.mk.inj h
  exact ⟨rfl, rfl⟩

theorem admits_ok {mode : Mode} {batch : Batch} {pipeline pipeline' : Pipeline π} {s t : Session σ}
    (h : admits mode batch (pipeline, s) = (.ok (), pipeline', t)) :
    pipeline' = pipeline ∧ t = s ∧ pipeline.supports mode = true ∧
      (mode = .transliterate → batch.raw = []) := by
  simp only [admits] at h
  split at h
  · cases h
  · rename_i hs
    split at h
    · cases h
    · rename_i hr
      cases h
      refine ⟨rfl, rfl, by simpa using hs, fun hm => ?_⟩
      simpa [hm] using hr

theorem process_ok {context : RunContext σ} {mode : Mode} {batch out : Batch}
    {pipeline pipeline' : Pipeline π} {s t : Session σ}
    (h : process context mode batch (pipeline, s) = (.ok out, pipeline', t)) :
    pipeline.supports mode = true ∧ (mode = .transliterate → batch.raw = []) ∧
      Stage.processAll context mode 0 batch pipeline.stages s =
        (.ok out, pipeline'.stages, t) := by
  obtain ⟨_, ⟨p₁, s₁⟩, hc, h₁⟩ := Attempt.bind_ok h
  obtain ⟨rfl, rfl⟩ := check_ok hc
  obtain ⟨_, ⟨p₂, s₂⟩, ha, h₂⟩ := Attempt.bind_ok h₁
  obtain ⟨rfl, rfl, hs, hr⟩ := admits_ok ha
  exact ⟨hs, hr, onStages_ok h₂⟩

end Pipeline

end Hanyu
