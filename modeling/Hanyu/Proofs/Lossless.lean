import Hanyu.Chinese.Declarations
import Hanyu.Proofs.Chunks
import Hanyu.Proofs.Success
import Hanyu.Proofs.Tagging

/-!
# Nothing of a text is lost

A run through Chinese stages keeps the tokens that it is given and puts the raw text into new ones,
whatever the segmentation engine and the pronouncer answer.

* `Token.Outline`: what no stage changes in a token; `Outline.IsMade`: how a tokenizer makes one.
* `Batch.Carries`: the tokens stay in front, and new ones take over raw text. Every stage does this
  (`Chinese.carries_of_process`), so every run does (`Chinese.carries_of_processAll`).
* `Chinese.raw_of_processAll`: a run through a tokenizer leaves no raw text.
* `Chinese.isLossless_of_process`: what comes out of a run of a pipeline.
-/

namespace Hanyu

/-! ## Outlines of tokens -/

/-- What no stage changes in a token. -/
structure Token.Outline where
  surface : Text
  isLexical : Bool
  tag : Option Text
  isChinese : Bool
deriving DecidableEq, Repr

/-- The outline of a token. -/
def Token.outline (token : Token) : Token.Outline :=
  ⟨token.surface, token.isLexical, token.tag, token.reading?.isSome⟩

/-- How a tokenizer makes a token: it has a span, and a tag and the mark of Chinese exactly when it
is a word, which takes an alphanumeric character. -/
structure Token.Outline.IsMade (outline : Token.Outline) : Prop where
  surface_ne_nil : outline.surface ≠ []
  tagged_iff : outline.tag.isSome = outline.isLexical
  chinese_iff : outline.isChinese = outline.isLexical
  alphanumeric : outline.isLexical = true → outline.surface.isLexical = true

namespace Batch

/-- The tokens of one batch stay in front in another one, and new tokens take over raw text. -/
def Carries (before after : Batch) : Prop :=
  ∃ made : List Token.Outline,
    after.tokens.map Token.outline = before.tokens.map Token.outline ++ made ∧
      made.flatMap Token.Outline.surface ++ after.raw.flatten = before.raw.flatten ∧
        ∀ outline ∈ made, outline.IsMade

theorem Carries.refl (batch : Batch) : Carries batch batch :=
  ⟨[], by simp, by simp, by simp⟩

theorem Carries.trans {a b c : Batch} (hab : Carries a b) (hbc : Carries b c) : Carries a c := by
  obtain ⟨m₁, ht₁, hr₁, hm₁⟩ := hab
  obtain ⟨m₂, ht₂, hr₂, hm₂⟩ := hbc
  refine ⟨m₁ ++ m₂, ?_, ?_, ?_⟩
  · rw [ht₂, ht₁, List.append_assoc]
  · rw [List.flatMap_append, List.append_assoc, hr₂, hr₁]
  · intro outline h
    rcases List.mem_append.mp h with h | h
    · exact hm₁ outline h
    · exact hm₂ outline h

theorem flatMap_outline (tokens : List Token) :
    (tokens.map Token.outline).flatMap Token.Outline.surface = tokens.flatMap Token.surface := by
  rw [List.flatMap_map]
  rfl

/-- What a run makes of a batch when nothing is lost. -/
structure IsLossless (before after : Batch) : Prop where
  /-- The source text of the tokens goes on with the raw text. -/
  surface : after.surface = before.surface ++ before.raw.flatten
  raw : after.raw = []
  /-- The tokens stay in front, and the new ones are as a tokenizer makes them. -/
  tokens : ∃ kept made, after.tokens = kept ++ made ∧
    kept.map Token.outline = before.tokens.map Token.outline ∧
      made.flatMap Token.surface = before.raw.flatten ∧ ∀ token ∈ made, token.outline.IsMade

theorem Carries.isLossless {before after : Batch} (h : Carries before after)
    (hraw : after.raw = []) : IsLossless before after := by
  obtain ⟨outlines, ht, hr, hm⟩ := h
  obtain ⟨kept, made, hs, hk, rfl⟩ := List.map_eq_append_iff.mp ht
  have hmade : made.flatMap Token.surface = before.raw.flatten := by
    rw [← hr, hraw, List.flatten_nil, List.append_nil, flatMap_outline]
  refine ⟨?_, hraw, kept, made, hs, hk, hmade, fun token h => hm _ (List.mem_map_of_mem h)⟩
  rw [Batch.surface, Batch.surface, hs, List.flatMap_append, hmade, ← flatMap_outline, hk,
    flatMap_outline]

end Batch

namespace Chinese

variable {σ ε : Type}

/-! ## The tokenizer -/

namespace Tokenizer

theorem surface_mark (token : Token) : (mark token).surface = token.surface := by
  unfold mark
  split <;> rfl

theorem tokensOf_ok {chunk : Text} {segmentation : Segmentation} {tokens : List Token}
    (h : tokensOf chunk segmentation = .ok tokens) :
    tokens.flatMap Token.surface = chunk ∧ ∀ token ∈ tokens, token.outline.IsMade := by
  unfold tokensOf at h
  cases ha : Segmentation.attachTags (Segmentation.weave chunk segmentation.words)
      segmentation.tags with
  | error fault =>
    rw [ha] at h
    cases h
  | ok tagged =>
    simp only [ha, Except.map, Except.ok.injEq] at h
    subst h
    obtain ⟨hn, rfl⟩ := Segmentation.attachTags_eq_ok_iff.mp ha
    refine ⟨?_, fun token ht => ?_⟩
    · simp only [List.flatMap_map, surface_mark]
      exact (Segmentation.surface_assignTags _ _).trans (Segmentation.surface_weave _ _)
    · obtain ⟨t, h₁, rfl⟩ := List.mem_map.mp ht
      obtain ⟨t₀, ht₀, hor⟩ := Segmentation.mem_assignTags hn h₁
      rw [Segmentation.weave_eq_tokens] at ht₀
      rcases Layout.mem_tokensFrom ht₀ with ⟨w, hw, rfl⟩ | ⟨gap, hg, rfl⟩
      · have hwl : w.isLexical = true := (List.mem_filter.mp hw).2
        rcases hor with ⟨hl, -⟩ | ⟨-, tag, -, rfl⟩
        · cases hl
        · exact ⟨Text.ne_nil_of_isLexical hwl, rfl, rfl, fun _ => hwl⟩
      · rcases hor with ⟨-, rfl⟩ | ⟨hl, -⟩
        · exact ⟨hg, rfl, rfl, fun h => by cases h⟩
        · cases hl

theorem tokenizeChunk_ok {tokenizer : Tokenizer σ ε} {engine : ε} {chunk : Text}
    {tokens : List Token} {s t : Session σ}
    (h : tokenizer.tokenizeChunk engine chunk s = (.ok tokens, t)) :
    tokens.flatMap Token.surface = chunk ∧ ∀ token ∈ tokens, token.outline.IsMade := by
  unfold tokenizeChunk at h
  obtain ⟨s₁, h₁⟩ := Attempt.when_ok h
  obtain ⟨segmentation, s₂, -, h₂⟩ := Attempt.bind_ok h₁
  exact tokensOf_ok (Prod.mk.inj h₂).1

theorem tokenize_ok {context : RunContext σ} {batch out : Batch} {tokenizer : Tokenizer σ ε}
    {s t : Session σ} (h : tokenize context batch tokenizer s = (.ok out, t)) :
    batch.Carries out ∧ out.raw = [] := by
  obtain ⟨_, s₁, -, h₁⟩ := Attempt.bind_ok h
  cases he : tokenizer.engine with
  | none =>
    rw [he] at h₁
    cases h₁
  | some engine =>
    rw [he] at h₁
    obtain ⟨pieces, s₂, hw, h₂⟩ := Attempt.bind_ok h₁
    obtain ⟨rfl, -⟩ := Attempt.pure_ok h₂
    have hp : pieces.flatten.flatMap Token.surface = batch.raw.flatten ∧
        ∀ token ∈ pieces.flatten, token.outline.IsMade := by
      refine RunContext.workThrough_ok (R := fun chunks pieces =>
        pieces.flatten.flatMap Token.surface = chunks.flatten ∧
          ∀ token ∈ pieces.flatten, token.outline.IsMade) ⟨rfl, by simp⟩ ?_ hw
      rintro chunk chunks tokens pieces s t hc ⟨hs, hm⟩
      obtain ⟨hs₁, hm₁⟩ := tokenizeChunk_ok hc
      refine ⟨by rw [List.flatten_cons, List.flatMap_append, hs₁, hs, List.flatten_cons], ?_⟩
      intro token ht
      rcases List.mem_append.mp (List.flatten_cons ▸ ht) with ht | ht
      · exact hm₁ token ht
      · exact hm token ht
    refine ⟨⟨pieces.flatten.map Token.outline, ?_, ?_, ?_⟩, rfl⟩
    · exact List.map_append
    · rw [Batch.flatMap_outline, hp.1]
      exact List.append_nil _
    · intro outline ho
      obtain ⟨token, ht, rfl⟩ := List.mem_map.mp ho
      exact hp.2 token ht

end Tokenizer

/-! ## The romanizer -/

theorem outline_of_annotate {pronouncer : Pronouncer σ} {style : Style} {token result : Token}
    {s t : Session σ} (h : pronouncer.annotate style token s = (.ok result, t)) :
    result.outline = token.outline := by
  unfold Pronouncer.annotate at h
  split at h
  · rename_i hp
    obtain ⟨reading, s₁, -, h₁⟩ := Attempt.bind_ok h
    obtain ⟨rfl, -⟩ := Attempt.pure_ok h₁
    have hr : token.reading?.isSome = true := by
      simp only [Token.isPronounceable, Bool.and_eq_true] at hp
      exact hp.2
    simp only [Token.outline, hr]
    rfl
  · obtain ⟨rfl, -⟩ := Attempt.pure_ok h
    rfl

namespace Romanizer

variable {romanizer : Romanizer σ} {context : RunContext σ} {batch out : Batch} {s t : Session σ}

theorem romanize_eq (context : RunContext σ) (batch : Batch) (romanizer : Romanizer σ) :
    romanizer.romanize context batch = context.check >>= fun _ =>
      if romanizer.isReady = true then
        context.workThrough romanizer.interval (romanizer.pronouncer.annotate romanizer.style)
          batch.tokens >>= fun tokens => pure { batch with tokens }
      else .fail (.initialization .transliteratorNotInitialized) := by
  unfold romanize
  cases romanizer.isReady <;> rfl

/-- A romanizer that succeeds is ready. `R` relates the tokens that go in to those that come out when
it does so for every token that is annotated. -/
theorem relates_of_romanize {R : List Token → List Token → Prop} (nil : R [] [])
    (cons : ∀ token tokens token' tokens' s t,
      romanizer.pronouncer.annotate romanizer.style token s = (.ok token', t) → R tokens tokens' →
        R (token :: tokens) (token' :: tokens'))
    (h : romanizer.romanize context batch s = (.ok out, t)) :
    romanizer.isReady = true ∧ out.raw = batch.raw ∧ R batch.tokens out.tokens := by
  rw [romanize_eq] at h
  obtain ⟨_, s₁, -, h₁⟩ := Attempt.bind_ok h
  by_cases hready : romanizer.isReady = true
  · rw [if_pos hready] at h₁
    obtain ⟨tokens, s₂, hw, h₂⟩ := Attempt.bind_ok h₁
    obtain ⟨rfl, -⟩ := Attempt.pure_ok h₂
    exact ⟨hready, rfl, RunContext.workThrough_ok nil cons hw⟩
  · rw [if_neg hready] at h₁
    cases h₁

theorem romanize_ok (h : romanizer.romanize context batch s = (.ok out, t)) :
    out.tokens.map Token.outline = batch.tokens.map Token.outline ∧ out.raw = batch.raw := by
  obtain ⟨-, hraw, htokens⟩ := relates_of_romanize (R := fun tokens tokens' =>
    tokens'.map Token.outline = tokens.map Token.outline) rfl
    (fun token tokens token' tokens' s t ha hr => by
      rw [List.map_cons, List.map_cons, outline_of_annotate ha, hr]) h
  exact ⟨htokens, hraw⟩

end Romanizer

/-! ## Stages and runs -/

theorem carries_of_romanize {context : RunContext σ} {batch out : Batch} {romanizer : Romanizer σ}
    {s t : Session σ} (h : Romanizer.romanize context batch romanizer s = (.ok out, t)) :
    batch.Carries out := by
  obtain ⟨ht, hr⟩ := Romanizer.romanize_ok h
  exact ⟨[], by rw [ht, List.append_nil], by rw [hr]; rfl, by simp⟩

/-- What a provider made, the tokenizer or the romanizer in it made. -/
theorem provider_process_ok {context : RunContext σ} {batch out : Batch}
    {provider provider' : Stage σ ε} {s t : Session σ}
    (h : Provider.process context batch (provider, s) = (.ok out, provider', t)) :
    (∃ tokenizer u, provider = .inl tokenizer ∧
        Tokenizer.tokenize context batch tokenizer s = (.ok out, u)) ∨
      ∃ romanizer u, provider = .inr romanizer ∧
        Romanizer.romanize context batch romanizer s = (.ok out, u) := by
  cases provider with
  | inl tokenizer => exact .inl ⟨tokenizer, _, rfl, Prod.ext (Prod.mk.inj h).1 rfl⟩
  | inr romanizer => exact .inr ⟨romanizer, _, rfl, Prod.ext (Prod.mk.inj h).1 rfl⟩

/-- A stage keeps the tokens in front and makes new ones of raw text. -/
theorem carries_of_process {context : RunContext σ} {batch out : Batch}
    {stage stage' : Hanyu.Stage (Stage σ ε)} {s t : Session σ}
    (h : Hanyu.Stage.process context batch (stage, s) = (.ok out, stage', t)) :
    batch.Carries out ∧ (batch.raw = [] → out.raw = []) := by
  obtain ⟨ready, u, -, hp⟩ := Hanyu.Stage.process_ok h
  rcases provider_process_ok hp with ⟨tokenizer, v, -, ht⟩ | ⟨romanizer, v, -, hr⟩
  · obtain ⟨hc, hraw⟩ := Tokenizer.tokenize_ok ht
    exact ⟨hc, fun _ => hraw⟩
  · exact ⟨carries_of_romanize hr, fun hraw => by rw [(Romanizer.romanize_ok hr).2, hraw]⟩

theorem carries_of_processAll {context : RunContext σ} {mode : Mode} {done : UInt64}
    {batch out : Batch} {stages stages' : List (Hanyu.Stage (Stage σ ε))} {s t : Session σ}
    (h : Hanyu.Stage.processAll context mode done batch stages s = (.ok out, stages', t)) :
    batch.Carries out :=
  Hanyu.Stage.processAll_ok Batch.Carries.refl (fun _ _ _ => Batch.Carries.trans)
    (fun _ _ _ _ _ _ _ hp => (carries_of_process hp).1) h

theorem raw_of_processAll_of_nil {context : RunContext σ} {mode : Mode} {done : UInt64}
    {batch out : Batch} {stages stages' : List (Hanyu.Stage (Stage σ ε))} {s t : Session σ}
    (h : Hanyu.Stage.processAll context mode done batch stages s = (.ok out, stages', t))
    (hraw : batch.raw = []) : out.raw = [] :=
  Hanyu.Stage.processAll_ok (R := fun a b : Batch => a.raw = [] → b.raw = []) (fun _ => id)
    (fun _ _ _ hab hbc ha => hbc (hab ha))
    (fun _ _ _ _ _ _ _ hp => (carries_of_process hp).2) h hraw

/-- A tokenizer stage leaves no raw text. -/
theorem raw_of_process {context : RunContext σ} {batch out : Batch}
    {stage stage' : Hanyu.Stage (Stage σ ε)} {s t : Session σ}
    (hk : stage.profile.kind = .tokenizer)
    (h : Hanyu.Stage.process context batch (stage, s) = (.ok out, stage', t)) : out.raw = [] := by
  obtain ⟨ready, u, hr, hp⟩ := Hanyu.Stage.process_ok h
  obtain ⟨provider, phase⟩ := stage
  cases provider with
  | inr romanizer => cases hk
  | inl tokenizer =>
    rcases provider_process_ok hp with ⟨tokenizer, v, -, ht⟩ | ⟨romanizer, v, hi, -⟩
    · exact (Tokenizer.tokenize_ok ht).2
    · -- Starting a tokenizer does not make a romanizer of it.
      rcases Hanyu.Stage.ensureReady_ok hr with ⟨-, rfl, -⟩ | ⟨-, -, hs⟩
      · cases hi
      · have hl := (Prod.mk.inj (Prod.mk.inj hs).2).1
        rw [hi] at hl
        cases hl

/-- A run through a tokenizer leaves no raw text. -/
theorem raw_of_processAll {context : RunContext σ} {mode : Mode} {done : UInt64} {batch out : Batch}
    {stages stages' : List (Hanyu.Stage (Stage σ ε))} {s t : Session σ}
    (hm : mode.selects .tokenizer = true)
    (hk : stages.any (fun stage => stage.profile.kind == .tokenizer) = true)
    (h : Hanyu.Stage.processAll context mode done batch stages s = (.ok out, stages', t)) :
    out.raw = [] := by
  induction stages generalizing done batch stages' s with
  | nil => cases hk
  | cons stage stages ih =>
    by_cases hs : stage.profile.kind = .tokenizer
    · rcases Hanyu.Stage.processAll_cons_ok h with ⟨hn, -⟩ | ⟨-, _, _, _, _, hp, h⟩
      · rw [hs, hm] at hn
        cases hn
      · exact raw_of_processAll_of_nil h (raw_of_process hs hp)
    · have hk' : stages.any (fun stage => stage.profile.kind == .tokenizer) = true := by
        simpa [hs] using hk
      rcases Hanyu.Stage.processAll_cons_ok h with ⟨-, later, h⟩ | ⟨-, _, _, _, later, -, h⟩
      · exact ih hk' h
      · exact ih hk' h

theorem isLossless_of_process_ok {context : RunContext σ} {mode : Mode} {batch out : Batch}
    {pipeline pipeline' : Pipeline (Stage σ ε)} {s t : Session σ}
    (h : Pipeline.process context mode batch (pipeline, s) = (.ok out, pipeline', t)) :
    batch.IsLossless out := by
  obtain ⟨hs, hr, hp⟩ := Pipeline.process_ok h
  refine (carries_of_processAll hp).isLossless ?_
  cases mode with
  | tokenize => exact raw_of_processAll rfl hs hp
  | transliterate => exact raw_of_processAll_of_nil hp (hr rfl)
  | combined =>
    refine raw_of_processAll rfl ?_ hp
    exact (Bool.and_eq_true_iff.mp hs).1

/-- **No run loses text.** Whatever the engine and the pronouncer answer, a batch that comes out of
a pipeline of Chinese stages has the tokens that went in, then tokens of the raw text, and no raw
text; and the tokens of a text that went through put together are this text. -/
theorem isLossless_of_process (pipeline : Pipeline (Stage σ ε)) (context : RunContext σ)
    (mode : Mode) (session : Session σ) :
    (∀ batch out, (Pipeline.process context mode batch (pipeline, session)).1 = .ok out →
      batch.IsLossless out) ∧
    ∀ text out, (Pipeline.processText context mode text (pipeline, session)).1 = .ok out →
      out.surface = text := by
  have key : ∀ batch out, (Pipeline.process context mode batch (pipeline, session)).1 = .ok out →
      batch.IsLossless out := fun batch out h => isLossless_of_process_ok (Prod.ext h rfl)
  refine ⟨key, fun text out h => ?_⟩
  rw [(key _ out h).surface]
  exact Chunk.flatten_split text _

/-- The segmenter that answers every chunk alike. -/
def Segmenter.alike (segmentation : Segmentation) : Segmenter Unit Unit where
  create := .answer ()
  load _ := .answer (.ok ())
  segment _ _ := .answer (.ok segmentation)
  unload _ := .answer ()

/-- A segmenter that tells of two words where there is one: nothing of the text is lost, and the
token that was there before stays in front. -/
theorem isLossless_of_process_alike :
    ∃ (pipeline : Pipeline (Stage Unit Unit)) (context : RunContext Unit) (session : Session Unit)
      (first second : Batch),
      (Pipeline.process context .combined ⟨["，好。".toList], [.lexical ['a']]⟩
          (pipeline, session)).1 = .ok first ∧
        (Pipeline.processText context .tokenize "，好。".toList (pipeline, session)).1 = .ok second ∧
          Batch.IsLossless ⟨["，好。".toList], [.lexical ['a']]⟩ first ∧
            first.tokens.length = 4 ∧ second.surface = "，好。".toList := by
  let segmenter := Segmenter.alike ⟨[['好'], ['，'], ['好']], [['n']]⟩
  let pronouncer : Pronouncer Unit := fun _ _ _ => .answer (.ok [["hao3".toList]])
  let pipeline : Pipeline (Stage Unit Unit) :=
    .ofProviders [] 0 [.inl (.new segmenter 0 1), .inr (.new pronouncer 1)]
  let context : RunContext Unit := .under ⟨⟨0⟩, none⟩
  let reading : Reading :=
    ⟨"hao3".toList, "hao3".toList, [["hao3".toList]], [["hao3".toList]], some 3, some 3, false⟩
  let word := (Token.lexical ['好']).tagged ['n']
  let first : Batch := ⟨[], [(Token.lexical ['a']).romanizedAsIs,
    (Token.filler ['，']).romanizedAsIs, word.withReading reading,
    (Token.filler ['。']).romanizedAsIs]⟩
  let second : Batch := ⟨[], [.filler ['，'], Tokenizer.mark word, .filler ['。']]⟩
  have h₁ : (Pipeline.process context .combined ⟨["，好。".toList], [.lexical ['a']]⟩
      (pipeline, Session.start 0 ())).1 = .ok first := by decide +kernel
  have h₂ : (Pipeline.processText context .tokenize "，好。".toList
      (pipeline, Session.start 0 ())).1 = .ok second := by decide +kernel
  refine ⟨pipeline, context, _, first, second, h₁, h₂, ?_, rfl, ?_⟩
  · exact (isLossless_of_process pipeline context _ _).1 _ _ h₁
  · exact (isLossless_of_process pipeline context _ _).2 _ _ h₂

end Chinese

end Hanyu
