import Hanyu.Proofs.Failure
import Hanyu.Proofs.LexiconLayout

/-!
# A lexicon and weaving agree

A segmenter that works with a lexicon forgets where its words stand, and weaving has to find them
again. For a lexicon that was read it always does, so the tags of the lexicon fit the tokens.

* `Lexicon.Agrees`: what it means that weaving finds the words and tags of a lexicon again.
* `LexiconSegmenter.agrees_of_read`: a lexicon that was read and has words agrees with weaving on
  every chunk, and a tokenizer that works with it never meets an inconsistent answer.
-/

namespace Hanyu

/-- Weaving gives back what a lexicon found in a chunk before it forgot the places. -/
structure Lexicon.Agrees (lexicon : Lexicon) (chunk : Text) (segmentation : Segmentation) :
    Prop where
  /-- The lexicon took the chunk apart. -/
  whole : (lexicon.pieces chunk).flatMap Lexicon.Piece.text = chunk
  /-- It reported the words that it found, and the tags of the lexical ones. -/
  reported : segmentation = Lexicon.segmentationOf (lexicon.pieces chunk)
  /-- Weaving finds every reported word in the place where the lexicon found it. -/
  places : Segmentation.layout chunk segmentation.words = Lexicon.layoutOf (lexicon.pieces chunk)
  /-- The lexical tokens are the reported lexical words in order. -/
  lexical : (Segmentation.weave chunk segmentation.words).filter Token.isLexical =
    (segmentation.words.filter Text.isLexical).map Token.lexical
  /-- Every lexical token gets the tag that the lexicon has chosen in this place. -/
  tagged : Segmentation.attachTags (Segmentation.weave chunk segmentation.words)
    segmentation.tags = .ok (Lexicon.tokensOf (lexicon.pieces chunk))

theorem Lexicon.IsSound.agrees {lexicon : Lexicon} (hs : lexicon.IsSound) (chunk : Text) :
    lexicon.Agrees chunk (lexicon.segment chunk) where
  whole := flatMap_pieces lexicon chunk
  reported := segment_eq lexicon chunk
  places := layout_segment hs chunk
  lexical := by
    have hw : (layoutOf (lexicon.pieces chunk)).words = (lexicon.segment chunk).words := by
      rw [layoutOf, words_layoutFrom, segment_eq]
    rw [Segmentation.filter_weave, layout_segment hs, Layout.lexicalWords, hw]
  tagged := attachTags_segment hs chunk

namespace Chinese.Tokenizer

variable {σ ε : Type}

theorem tokensOf_segment {lexicon : Lexicon} (hs : lexicon.IsSound) (chunk : Text) :
    tokensOf chunk (lexicon.segment chunk) =
      .ok ((Lexicon.tokensOf (lexicon.pieces chunk)).map mark) := by
  rw [tokensOf, Lexicon.attachTags_segment hs]
  rfl

theorem isConsistency_of_tokenize {tokenizer : Tokenizer σ LexiconSegmenter} {lexicon : Lexicon}
    (hs : lexicon.IsSound) (hl : tokenizer.segmenter = .ofLexicon lexicon)
    (he : tokenizer.engine = some ⟨lexicon, true⟩) {context : RunContext σ} {batch : Batch}
    {s t : Session σ} {fault : Fault}
    (h : tokenize context batch tokenizer s = (.error fault, t)) : fault.isConsistency = false := by
  have ha : ∀ chunk notes, (tokenizer.segmenter.segment ⟨lexicon, true⟩ chunk notes).answer =
      .ok (lexicon.segment chunk) := by
    intro chunk notes
    rw [hl]
    rfl
  rcases tokenize_error he h with hstop | ⟨chunk, -, hf⟩
  · obtain ⟨reason, rfl⟩ := RunContext.check_error hstop
    rfl
  · -- The engine answers every chunk, and its answer fits.
    cases hf with
    | refused hpos hlt => rfl
    | unanswered hn =>
      rw [ha] at hn
      cases hn
    | inconsistent hn ht =>
      rw [ha] at hn
      cases hn
      rw [tokensOf_segment hs] at ht
      cases ht

end Chinese.Tokenizer

namespace LexiconSegmenter

/-- A lexicon that was read and has words can be loaded, and weaving then agrees with it on every
chunk. So no run of a tokenizer that works with it fails for an inconsistent answer. -/
theorem agrees_of_read {document : Text} {lexicon : Lexicon}
    (h : Lexicon.read document = .ok lexicon) (hw : lexicon.words ≠ []) :
    ∃ segmenter, (new lexicon).load = .ok segmenter ∧
      (∀ chunk, ∃ segmentation, segmenter.segment chunk = .ok segmentation ∧
        lexicon.Agrees chunk segmentation) ∧
      ∀ (σ : Type) (tokenizer : Chinese.Tokenizer σ LexiconSegmenter) (context : RunContext σ)
        (batch : Batch) (session : Session σ) (fault : Fault),
        tokenizer.segmenter = .ofLexicon lexicon → tokenizer.engine = some segmenter →
        (tokenizer.tokenize context batch session).1 = .error fault →
        fault.isConsistency = false := by
  have hs := Lexicon.read_isSound h
  refine ⟨⟨lexicon, true⟩, ?_, fun chunk => ⟨lexicon.segment chunk, rfl, hs.agrees chunk⟩, ?_⟩
  · rw [load, if_neg]
    · rfl
    · simpa [new] using hw
  · intro σ tokenizer context batch session fault hl he hf
    exact Chinese.Tokenizer.isConsistency_of_tokenize hs hl he (Prod.ext hf rfl)

/-- With a word that begins with a comma, and a blank as a word: of the chunk only the second comma
is part of a word. A chunk that is too long for the tokenizer is no inconsistency. -/
theorem agrees_of_read_comma :
    ∃ lexicon, Lexicon.read "[words]\n\"，好\" = \"x\"\n\" \" = \"w\"\n".toList = .ok lexicon ∧
      lexicon.words ≠ [] ∧ ∃ segmenter, (new lexicon).load = .ok segmenter ∧
        (∃ segmentation, segmenter.segment "，，好 ab。".toList = .ok segmentation ∧
          lexicon.Agrees "，，好 ab。".toList segmentation) ∧
        ∃ fault : Fault, fault.isConsistency = false ∧
          (Chinese.Tokenizer.tokenize (.under ⟨⟨0⟩, none⟩) (.ofChunks [['好', '好']])
            ⟨.ofLexicon lexicon, some segmenter, 1, 1⟩ (Session.start 0 ())).1 = .error fault := by
  let lexicon : Lexicon := ⟨[(['，', '好'], ['x']), ([' '], ['w'])], [], 2⟩
  have h : Lexicon.read "[words]\n\"，好\" = \"x\"\n\" \" = \"w\"\n".toList = .ok lexicon := by
    decide +kernel
  obtain ⟨segmenter, hl, ha, hf⟩ := agrees_of_read h (List.cons_ne_nil _ _)
  cases hl
  have ht : (Chinese.Tokenizer.tokenize (.under ⟨⟨0⟩, none⟩) (.ofChunks [['好', '好']])
      ⟨.ofLexicon lexicon, some ⟨lexicon, true⟩, 1, 1⟩ (Session.start 0 ())).1 =
        .error (.configuration (.oversizedChunk 2 1)) := rfl
  exact ⟨lexicon, h, List.cons_ne_nil _ _, ⟨lexicon, true⟩, rfl, ha _, _,
    hf Unit _ _ _ _ _ rfl rfl ht, ht⟩

end LexiconSegmenter

end Hanyu
