import Hanyu.Chinese.Romanizer
import Hanyu.Proofs.Readiness

/-!
# Providers that stand by

Providers that do not touch a part of the notes in any operation, such as what another one writes
down for itself.

* `Provider.LeavesAlone`: the notion, by a property of providers that no operation breaks.
* `Provider.LeavesAlone.inl`, `Provider.LeavesAlone.inr`: either of two providers stands by when the
  one that is there does.
* `Chinese.Tokenizer.leavesAlone`, `Chinese.Romanizer.leavesAlone`: a tokenizer stands by when its
  segmenter does, and a romanizer when its pronouncer does.
-/

namespace Hanyu

variable {σ ε π ρ α β γ : Type}

/-- An attempt on a provider does not touch what is seen of the notes, and does not break `Q`. -/
def Attempt.Ignores (seen : σ → γ) (Q : ρ → Prop) (x : Attempt Fault (ρ × Session σ) α) : Prop :=
  ∀ provider s, Q provider →
    Q (x (provider, s)).2.1 ∧ seen (x (provider, s)).2.2.notes = seen s.notes

/-- No operation of providers with `Q` touches what is seen of the notes. -/
structure Provider.Ignores [Provider σ ρ] (seen : σ → γ) (Q : ρ → Prop) : Prop where
  configure : ∀ options, Attempt.Ignores seen Q (Provider.configure options)
  start : Attempt.Ignores seen Q Provider.start
  restart : ∀ fresh, Attempt.Ignores seen Q (Provider.restart fresh)
  process : ∀ (context : RunContext σ) batch, context.IsQuiet seen →
    Attempt.Ignores seen Q (Provider.process context batch)
  release : Attempt.Ignores seen Q Provider.release
  discard : ∀ provider s, Q provider → seen (Provider.discard provider s).notes = seen s.notes

/-- A provider touches what is seen of the notes in no operation, whatever is done with it. -/
def Provider.LeavesAlone [Provider σ ρ] (seen : σ → γ) (provider : ρ) : Prop :=
  ∃ Q : ρ → Prop, Provider.Ignores seen Q ∧ Q provider

section Ignoring

variable {seen : σ → γ} {P : π → Prop} {Q : ρ → Prop}

theorem Attempt.Ignores.bind {x : Attempt Fault (ρ × Session σ) α}
    {f : α → Attempt Fault (ρ × Session σ) β} (hx : Ignores seen Q x)
    (hf : ∀ a, Ignores seen Q (f a)) : Ignores seen Q (x >>= f) := by
  intro provider s
  refine between_bind (R := fun before after : ρ × Session σ => Q before.1 →
    Q after.1 ∧ seen after.2.notes = seen before.2.notes) ?_ (fun left => hx left.1 left.2)
    (fun a left => hf a left.1 left.2) (provider, s)
  intro before between after hfirst hlast h
  obtain ⟨hbetween, hseen⟩ := hfirst h
  obtain ⟨hafter, hseen'⟩ := hlast hbetween
  exact ⟨hafter, hseen'.trans hseen⟩

theorem Attempt.Ignores.either {x : Attempt Fault (π × Session σ) α}
    {y : Attempt Fault (ρ × Session σ) α} (hx : Ignores seen P x) (hy : Ignores seen Q y) :
    Ignores seen (Sum.elim P Q) (.either x y) := by
  rintro (provider | provider) s h
  · exact hx provider s h
  · exact hy provider s h

variable [Provider σ π] [Provider σ ρ]

theorem Provider.Ignores.sum (hp : Provider.Ignores seen P) (hq : Provider.Ignores seen Q) :
    Provider.Ignores seen (Sum.elim P Q) where
  configure options := (hp.configure options).either (hq.configure options)
  start := hp.start.either hq.start
  restart fresh := (hp.restart fresh).either (hq.restart fresh)
  process context batch hc := (hp.process context batch hc).either (hq.process context batch hc)
  release := hp.release.either hq.release
  discard := by
    rintro (provider | provider) s h
    · exact hp.discard provider s h
    · exact hq.discard provider s h

/-- Where there are no providers, none touches anything. -/
theorem Provider.ignores_false : Provider.Ignores seen (fun _ : ρ => False) where
  configure _ _ _ h := h.elim
  start _ _ h := h.elim
  restart _ _ _ h := h.elim
  process _ _ _ _ _ h := h.elim
  release _ _ h := h.elim
  discard _ _ h := h.elim

theorem Provider.LeavesAlone.inl {provider : π} (h : Provider.LeavesAlone seen provider) :
    Provider.LeavesAlone seen (.inl provider : π ⊕ ρ) := by
  obtain ⟨P, hignores, hp⟩ := h
  exact ⟨Sum.elim P fun _ => False, hignores.sum ignores_false, hp⟩

theorem Provider.LeavesAlone.inr {provider : ρ} (h : Provider.LeavesAlone seen provider) :
    Provider.LeavesAlone seen (.inr provider : π ⊕ ρ) := by
  obtain ⟨Q, hignores, hq⟩ := h
  exact ⟨Sum.elim (fun _ => False) Q, ignores_false.sum hignores, hq⟩

end Ignoring

/-! ## Tokenizers -/

namespace Chinese

variable {seen : σ → γ}

/-- No call of a segmenter touches what is seen of the notes. -/
structure Segmenter.StandsBy (seen : σ → γ) (segmenter : Segmenter σ ε) : Prop
    extends segmenter.IsQuiet seen where
  unload : ∀ engine, (segmenter.unload engine).IsQuiet seen

namespace Tokenizer

theorem ignores_loadEngine : Attempt.Ignores seen
    (fun tokenizer : Tokenizer σ ε => tokenizer.segmenter.StandsBy seen) loadEngine := by
  intro tokenizer s h
  cases he : tokenizer.engine with
  | some engine =>
    rw [loadEngine, he]
    exact ⟨h, rfl⟩
  | none =>
    have hopened : seen (tokenizer.segmenter.opened s).2.notes = seen s.notes :=
      (h.load _ _).trans (h.create s.notes)
    rw [loadEngine_of_none he]
    split
    · rename_i engine t ho
      rw [ho] at hopened
      exact ⟨h, hopened⟩
    · rename_i fault t ho
      rw [ho] at hopened
      exact ⟨h, hopened⟩

theorem seen_dropEngine {tokenizer : Tokenizer σ ε} (h : tokenizer.segmenter.StandsBy seen)
    (s : Session σ) : seen (tokenizer.dropEngine s).2.notes = seen s.notes := by
  unfold dropEngine
  split
  · rfl
  · exact h.unload _ s.notes

theorem ignores_dropEngine : Attempt.Ignores seen
    (fun tokenizer : Tokenizer σ ε => tokenizer.segmenter.StandsBy seen)
    (.change fun (tokenizer, s) => tokenizer.dropEngine s) := by
  intro tokenizer s h
  refine ⟨?_, seen_dropEngine h s⟩
  change (tokenizer.dropEngine s).1.segmenter.StandsBy seen
  rwa [dropEngine_fst]

/-- Tokenizing a chunk breaks only what the segmenting engine breaks. -/
theorem maintains_tokenizeChunk {tokenizer : Tokenizer σ ε} {engine : ε} {chunk : Text}
    {I : Session σ → Prop}
    (hsegment : Attempt.Maintains I
      (Session.consult (tokenizer.segmenter.segment engine chunk))) :
    Attempt.Maintains I (tokenizer.tokenizeChunk engine chunk) := by
  have hask : Attempt.Maintains I
      (Session.consult (tokenizer.segmenter.segment engine chunk) >>= fun segmentation =>
        .ofExcept (tokensOf chunk segmentation)) :=
    hsegment.bind fun _ => fun _ hs => hs
  unfold tokenizeChunk
  split
  · exact Attempt.Maintains.bind (fun _ hs => hs) fun _ => hask
  · exact hask

/-- Tokenizing breaks only what the segmenting engine or a report breaks. -/
theorem maintains_tokenize {tokenizer : Tokenizer σ ε} {context : RunContext σ}
    {I : Session σ → Prop}
    (hsegment : ∀ engine, tokenizer.engine = some engine → ∀ chunk,
      Attempt.Maintains I (Session.consult (tokenizer.segmenter.segment engine chunk)))
    (hr : ∀ done total s, I s → I (context.reported done total s)) (batch : Batch) :
    Attempt.Maintains I (tokenizer.tokenize context batch) := by
  refine Attempt.Maintains.bind (fun _ hs => hs) fun _ => ?_
  split
  · exact fun _ hs => hs
  · rename_i engine he
    have hchunk : ∀ chunk, Attempt.Maintains I (tokenizer.tokenizeChunk engine chunk) :=
      fun chunk => maintains_tokenizeChunk (hsegment engine he chunk)
    exact (RunContext.maintains_workThrough hchunk hr _ _).bind fun _ => .pure _

/-- A tokenizer does not touch a part of the notes that its segmenter does not touch. -/
theorem leavesAlone {tokenizer : Tokenizer σ ε} (h : tokenizer.segmenter.StandsBy seen) :
    Provider.LeavesAlone seen tokenizer := by
  refine ⟨fun tokenizer => tokenizer.segmenter.StandsBy seen, ?_, h⟩
  constructor
  case configure => exact fun _ _ _ h => ⟨h, rfl⟩
  case start => exact ignores_loadEngine
  case restart =>
    intro fresh
    cases fresh with
    | false => exact ignores_loadEngine
    | true => exact ignores_dropEngine.bind fun _ => ignores_loadEngine
  case process =>
    intro context batch hcontext tokenizer s h
    have htokenize : Attempt.Maintains (fun t => seen t.notes = seen s.notes)
        (tokenizer.tokenize context batch) :=
      maintains_tokenize
        (fun engine _ chunk => (h.segment engine chunk).maintains_consult (seen s.notes))
        (fun done total t ht => (hcontext.reported done total t).trans ht) batch
    exact ⟨h, htokenize s rfl⟩
  case release => exact ignores_dropEngine
  case discard => exact fun tokenizer s h => seen_dropEngine h s

end Tokenizer

end Chinese

/-! ## Romanizers -/

section Romanizer

variable {seen : σ → γ}

/-- Annotating a token breaks only what asking for its readings breaks. -/
theorem Pronouncer.maintains_annotate {pronouncer : Pronouncer σ} {I : Session σ → Prop}
    (hask : ∀ text style all, Attempt.Maintains I (Session.consult (pronouncer text style all)))
    (style : Style) (token : Token) : Attempt.Maintains I (pronouncer.annotate style token) := by
  have hreading : Attempt.Maintains I (pronouncer.reading style token.surface) :=
    (hask _ _ _).bind fun _ => (hask _ _ _).bind fun _ => fun _ hs => hs
  unfold annotate
  split
  · exact hreading.bind fun _ => .pure _
  · exact .pure _

/-- Romanizing breaks only what asking for readings or a report breaks. -/
theorem Chinese.Romanizer.maintains_romanize {romanizer : Chinese.Romanizer σ}
    {I : Session σ → Prop}
    (hask : ∀ text style all,
      Attempt.Maintains I (Session.consult (romanizer.pronouncer text style all)))
    {context : RunContext σ} (hr : ∀ done total s, I s → I (context.reported done total s))
    (batch : Batch) : Attempt.Maintains I (romanize context batch romanizer) := by
  have hwork : Attempt.Maintains I (context.workThrough romanizer.interval
      (romanizer.pronouncer.annotate romanizer.style) batch.tokens) :=
    RunContext.maintains_workThrough (Pronouncer.maintains_annotate hask romanizer.style) hr _ _
  refine Attempt.Maintains.bind (fun _ hs => hs) fun _ => ?_
  split
  · exact fun _ hs => hs
  · exact hwork.bind fun _ => .pure _

/-- A romanizer does not touch a part of the notes that its pronouncer does not touch. -/
theorem Chinese.Romanizer.leavesAlone {romanizer : Chinese.Romanizer σ}
    (hq : ∀ text style all, (romanizer.pronouncer text style all).IsQuiet seen) :
    Provider.LeavesAlone seen romanizer := by
  refine ⟨fun romanizer => ∀ text style all, (romanizer.pronouncer text style all).IsQuiet seen,
    ⟨?_, fun _ _ h => ⟨h, rfl⟩, fun _ _ _ h => ⟨h, rfl⟩, ?_, fun _ _ h => ⟨h, rfl⟩,
      fun _ _ _ => rfl⟩, hq⟩
  · intro options romanizer s h
    have hsame : (romanizer.configured options).pronouncer = romanizer.pronouncer := by
      unfold configured
      split <;> rfl
    exact ⟨fun text style all => hsame ▸ h text style all, rfl⟩
  · intro context batch hcontext romanizer s h
    have hromanize : Attempt.Maintains (fun t => seen t.notes = seen s.notes)
        (romanize context batch romanizer) :=
      maintains_romanize (fun text style all => (h text style all).maintains_consult (seen s.notes))
        (fun done total t ht => (hcontext.reported done total t).trans ht) batch
    exact ⟨h, hromanize s rfl⟩

end Romanizer

end Hanyu
