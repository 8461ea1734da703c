/-!
# Attempts

An attempt works on a state and may fail. The state it leaves behind counts in both cases: a run
that is stopped has still called the engines it called.

* `run_bind_ok`, `run_bind_error`: a failure ends an attempt where it happens.
-/

namespace Hanyu

/-- A step on states that ends in a failure or in a result, and in a state. -/
def Attempt (ε σ α : Type) : Type := σ → Except ε α × σ

namespace Attempt

variable {ε σ α β : Type}

/-- The result and the state after an attempt. -/
def run (x : Attempt ε σ α) (s : σ) : Except ε α × σ := x s

/-- The attempt that leaves the state alone. -/
def succeed (a : α) : Attempt ε σ α := fun s => (.ok a, s)

/-- The attempt that fails and leaves the state alone. -/
def fail (e : ε) : Attempt ε σ α := fun s => (.error e, s)

/-- One attempt, and after its success another one. -/
def andThen (x : Attempt ε σ α) (f : α → Attempt ε σ β) : Attempt ε σ β := fun s =>
  match x s with
  | (.ok a, s) => f a s
  | (.error e, s) => (.error e, s)

instance : Monad (Attempt ε σ) where
  pure := succeed
  bind := andThen

/-- The attempt that only changes the state. -/
def change (f : σ → σ) : Attempt ε σ Unit := fun s => (.ok (), f s)

/-- The attempt that asks the state for something and changes it. -/
def ask (f : σ → α × σ) : Attempt ε σ α := fun s => let (a, s) := f s; (.ok a, s)

/-- The attempt with a result that is already known. -/
def ofExcept (r : Except ε α) : Attempt ε σ α := fun s => (r, s)

/-- An attempt on the second part of a state. -/
def onSecond {π : Type} (x : Attempt ε σ α) : Attempt ε (π × σ) α := fun (p, s) =>
  let (a, s) := x s
  (a, p, s)

/-- An attempt on whichever of two states is there. -/
def either {π ρ : Type} (x : Attempt ε (π × σ) α) (y : Attempt ε (ρ × σ) α) :
    Attempt ε ((π ⊕ ρ) × σ) α
  | (.inl p, s) => let (a, p, s) := x (p, s); (a, .inl p, s)
  | (.inr r, s) => let (a, r, s) := y (r, s); (a, .inr r, s)

/-- An attempt whose failure is told in other words. -/
def mapFailure {ε' : Type} (f : ε → ε') (x : Attempt ε σ α) : Attempt ε' σ α := fun s =>
  let (a, s) := x s
  (a.mapError f, s)

theorem run_bind_ok {x : Attempt ε σ α} {f : α → Attempt ε σ β} {s t : σ} {a : α}
    (h : x.run s = (.ok a, t)) : (x >>= f).run s = (f a).run t := by
  change andThen x f s = f a t
  rw [run] at h
  rw [andThen, h]

theorem run_bind_error {x : Attempt ε σ α} {f : α → Attempt ε σ β} {s t : σ} {e : ε}
    (h : x.run s = (.error e, t)) : (x >>= f).run s = (.error e, t) := by
  change andThen x f s = (.error e, t)
  rw [run] at h
  rw [andThen, h]

instance : LawfulMonad (Attempt ε σ) := LawfulMonad.mk' _
  (by
    intro α x
    funext s
    change andThen x (fun a => succeed (id a)) s = x s
    unfold andThen succeed
    rcases x s with ⟨_ | _, _⟩ <;> rfl)
  (fun _ _ => rfl)
  (by
    intro α β γ x f g
    funext s
    change andThen (andThen x f) g s = andThen x (fun a => andThen (f a) g) s
    unfold andThen
    rcases x s with ⟨_ | _, _⟩ <;> rfl)

end Attempt

end Hanyu
