import Hanyu.Proofs.Acceptance
import Hanyu.Proofs.Tagging

/-!
# The layout that a lexicon gives a text

A lexicon takes a text apart into the words that it reports and the characters that it does not. Its
words and tags are read off these pieces, and so is the layout that weaving has to find again.

* `segment_eq`: a segmentation is the words of the pieces, and the tags of the lexical ones.
* `exists_longestMatch?`: the bounded search misses no word with which a text begins.
* `isClear_layoutOf`: no reported word begins where a character is not reported.
* `attachTags_segment`: the words are woven where they were found, with their tags.
-/

namespace Hanyu.Lexicon

open Segmentation

theorem mem_of_tag? {lexicon : Lexicon} {word tag : Text} (h : lexicon.tag? word = some tag) :
    (word, tag) ∈ lexicon.words := by
  obtain ⟨before, after, hs, -⟩ := List.lookup_eq_some_iff.mp h
  rw [hs]
  simp

/-! ## Pieces -/

/-- A piece of a text. -/
inductive Piece where
  /-- A word that is reported, with its tag. -/
  | reported (word tag : Text)
  /-- A character that is not reported. -/
  | skipped (c : Char)
deriving DecidableEq, Repr

/-- The text of a piece. -/
def Piece.text : Piece → Text
  | reported word _ => word
  | skipped c => [c]

/-- The pieces of a text, in order. -/
def pieces (lexicon : Lexicon) (text : Text) : List Piece :=
  match text with
  | [] => []
  | c :: rest =>
    match h : lexicon.longestMatch? (c :: rest) (min lexicon.longest (c :: rest).length) with
    | some hit =>
      have := length_rest_of_longestMatch? h (List.cons_ne_nil c rest)
      .reported hit.word hit.tag :: pieces lexicon hit.rest
    | none =>
      have := length_unlistedPiece c rest
      match (unlistedPiece c rest).1 with
      | some (word, tag) => .reported word tag :: pieces lexicon (unlistedPiece c rest).2
      | none => .skipped c :: pieces lexicon (unlistedPiece c rest).2
termination_by text.length
decreasing_by all_goals assumption

/-- The words of some pieces, with the tags of the lexical ones. -/
def segmentationOf : List Piece → Segmentation
  | [] => .empty
  | .reported word tag :: pieces => report word tag (segmentationOf pieces)
  | .skipped _ :: pieces => segmentationOf pieces

/-- The words of some pieces where they stand, after a gap. -/
def layoutFrom (gap : Text) : List Piece → Layout
  | [] => .rest gap
  | .reported word _ :: pieces => .next gap word (layoutFrom [] pieces)
  | .skipped c :: pieces => layoutFrom (gap ++ [c]) pieces

/-- The words of some pieces where they stand. -/
def layoutOf (pieces : List Piece) : Layout := layoutFrom [] pieces

/-- The tokens of a gap and some pieces: one for every lexical word, with the tag of this very
piece, and one for all that stands between two of them. -/
def tokensFrom (gap : Text) : List Piece → List Token
  | [] => fillGap gap
  | .reported word tag :: pieces =>
    if word.isLexical then fillGap gap ++ (Token.lexical word).tagged tag :: tokensFrom [] pieces
    else tokensFrom (gap ++ word) pieces
  | .skipped c :: pieces => tokensFrom (gap ++ [c]) pieces

/-- The tokens of some pieces. -/
def tokensOf (pieces : List Piece) : List Token := tokensFrom [] pieces

theorem pieces_cons_of_some {lexicon : Lexicon} {c : Char} {rest : Text} {hit : Hit}
    (h : lexicon.longestMatch? (c :: rest) (min lexicon.longest (c :: rest).length) = some hit) :
    lexicon.pieces (c :: rest) = .reported hit.word hit.tag :: lexicon.pieces hit.rest := by
  rw [pieces]
  split
  · rename_i hit' h'
    rw [h] at h'
    cases h'
    rfl
  · rename_i h'
    rw [h] at h'
    cases h'

theorem pieces_cons_of_none {lexicon : Lexicon} {c : Char} {rest : Text}
    (h : lexicon.longestMatch? (c :: rest) (min lexicon.longest (c :: rest).length) = none) :
    lexicon.pieces (c :: rest) =
      ((unlistedPiece c rest).1.elim (.skipped c) fun (word, tag) => .reported word tag) ::
        lexicon.pieces (unlistedPiece c rest).2 := by
  rw [pieces]
  split
  · rename_i h'
    rw [h] at h'
    cases h'
  · split <;> rename_i hp <;> rw [hp] <;> rfl

/-- A segmentation is the words of the pieces, and the tags of the lexical ones. -/
theorem segment_eq (lexicon : Lexicon) (text : Text) :
    lexicon.segment text = segmentationOf (lexicon.pieces text) := by
  fun_induction segment lexicon text with
  | case1 => rw [pieces, segmentationOf]
  | case2 c rest hit h hlt ih => rw [pieces_cons_of_some h, segmentationOf, ih]
  | case3 c rest h hlt word tag hp ih =>
    rw [pieces_cons_of_none h, hp, Option.elim_some, segmentationOf, ih]
  | case4 c rest h hlt hp ih =>
    rw [pieces_cons_of_none h, hp, Option.elim_none, segmentationOf, ih]

theorem unlistedPiece_append {c : Char} {rest word tag : Text}
    (h : (unlistedPiece c rest).1 = some (word, tag)) :
    word ++ (unlistedPiece c rest).2 = c :: rest := by
  unfold unlistedPiece at h ⊢
  split at h
  · rename_i hc
    cases h
    simp [hc]
  · rename_i hc
    split at h
    · rename_i hu
      cases h
      simp [hc, hu]
    · cases h

theorem unlistedPiece_head {c : Char} {rest word tag : Text}
    (h : (unlistedPiece c rest).1 = some (word, tag)) :
    ∃ c rest, word = c :: rest ∧ Unicode.isAlphanumeric c = true := by
  unfold unlistedPiece at h
  split at h
  · rename_i hc
    cases h
    exact ⟨c, _, rfl, Unicode.isAlphanumeric_of_isAlphanum hc⟩
  · split at h
    · rename_i hu
      cases h
      exact ⟨c, [], rfl, hu⟩
    · cases h

theorem unlistedPiece_eq_none {c : Char} {rest : Text} (h : (unlistedPiece c rest).1 = none) :
    Unicode.isAlphanumeric c = false ∧ (unlistedPiece c rest).2 = rest := by
  unfold unlistedPiece at h ⊢
  split at h
  · cases h
  · rename_i hc
    split at h
    · cases h
    · rename_i hu
      simp [hc, hu]

/-- The pieces of a text put together are the text. -/
theorem flatMap_pieces (lexicon : Lexicon) (text : Text) :
    (lexicon.pieces text).flatMap Piece.text = text := by
  fun_induction pieces lexicon text with
  | case1 => rfl
  | case2 c rest hit h hlt ih =>
    rw [List.flatMap_cons, ih]
    exact (longestMatch?_eq_some h).2
  | case3 c rest h hlt word tag hp ih =>
    rw [List.flatMap_cons, ih]
    exact unlistedPiece_append hp
  | case4 c rest h hlt hp ih =>
    rw [List.flatMap_cons, ih, (unlistedPiece_eq_none hp).2]
    rfl

theorem text_layoutFrom (gap : Text) (pieces : List Piece) :
    (layoutFrom gap pieces).text = gap ++ pieces.flatMap Piece.text := by
  induction pieces generalizing gap with
  | nil => simp [layoutFrom, Layout.text]
  | cons piece pieces ih => cases piece <;> simp [layoutFrom, Layout.text, Piece.text, ih]

theorem words_layoutFrom (gap : Text) (pieces : List Piece) :
    (layoutFrom gap pieces).words = (segmentationOf pieces).words := by
  induction pieces generalizing gap with
  | nil => rfl
  | cons piece pieces ih =>
    cases piece <;> simp [layoutFrom, Layout.words, segmentationOf, report, ih]

/-! ## No word begins where a character is not reported -/

/-- Neither a word of the lexicon nor an alphanumeric character begins a text. -/
structure IsQuietAt (lexicon : Lexicon) (text : Text) : Prop where
  no_word : ∀ word tag, lexicon.tag? word = some tag → ¬word <+: text
  no_letter : ∀ c rest, text = c :: rest → Unicode.isAlphanumeric c = false

/-- What is longer than the match has been looked up in vain. -/
theorem tag?_take_of_longestMatch? {lexicon : Lexicon} {text : Text} {n k : Nat}
    (hn : n ≤ text.length) (hk : 0 < k) (hkn : k ≤ n)
    (h : ∀ hit, lexicon.longestMatch? text n = some hit → hit.word.length < k) :
    lexicon.tag? (text.take k) = none := by
  induction n with
  | zero => omega
  | succ n ih =>
    rw [longestMatch?] at h
    cases ht : lexicon.tag? (text.take (n + 1)) with
    | some tag =>
      have hlt := h _ (by rw [ht])
      rw [List.length_take] at hlt
      omega
    | none =>
      rw [ht] at h
      by_cases he : k = n + 1
      · rwa [he]
      · exact ih (by omega) (by omega) h

/-- When a text begins with a word, the search finds that one or a longer one. -/
theorem exists_longestMatch? {lexicon : Lexicon} (hs : lexicon.IsSound) {text word tag : Text}
    (ht : lexicon.tag? word = some tag) (hw : word <+: text) :
    ∃ hit, lexicon.longestMatch? text (min lexicon.longest text.length) = some hit ∧
      word.length ≤ hit.word.length := by
  refine Classical.byContradiction fun hnone => ?_
  have hm := mem_of_tag? ht
  have hpos : 0 < word.length := List.length_pos_iff.mpr (hs.ne_nil _ hm)
  have hle : word.length ≤ min lexicon.longest text.length :=
    Nat.le_min.mpr ⟨hs.le_longest _ hm, hw.length_le⟩
  have hn := tag?_take_of_longestMatch? (Nat.min_le_right _ _) hpos hle fun hit hhit =>
    Nat.lt_of_not_le fun hlong => hnone ⟨hit, hhit, hlong⟩
  rw [← List.prefix_iff_eq_take.mp hw, ht] at hn
  cases hn

theorem not_begins_of_longestMatch? {lexicon : Lexicon} (hs : lexicon.IsSound) {text : Text}
    (h : lexicon.longestMatch? text (min lexicon.longest text.length) = none) {word tag : Text}
    (ht : lexicon.tag? word = some tag) : ¬word <+: text := by
  intro hw
  obtain ⟨hit, hm, -⟩ := exists_longestMatch? hs ht hw
  rw [h] at hm
  cases hm

theorem isQuietAt_of_skipped {lexicon : Lexicon} (hs : lexicon.IsSound) {c : Char} {rest : Text}
    (h : lexicon.longestMatch? (c :: rest) (min lexicon.longest (c :: rest).length) = none)
    (hp : (unlistedPiece c rest).1 = none) : lexicon.IsQuietAt (c :: rest) := by
  constructor
  · exact fun word tag ht => not_begins_of_longestMatch? hs h ht
  · intro c' rest' he
    cases he
    exact (unlistedPiece_eq_none hp).1

/-- A reported word is a word of the lexicon, or begins with an alphanumeric character. -/
theorem mem_words_segmentationOf {lexicon : Lexicon} {text word : Text}
    (h : word ∈ (segmentationOf (lexicon.pieces text)).words) :
    (∃ tag, lexicon.tag? word = some tag) ∨
      ∃ c rest, word = c :: rest ∧ Unicode.isAlphanumeric c = true := by
  fun_induction pieces lexicon text with
  | case1 => simp [segmentationOf, Segmentation.empty] at h
  | case2 c rest hit hm hlt ih =>
    simp only [segmentationOf, report, List.mem_cons] at h
    rcases h with rfl | h
    · exact .inl ⟨_, (longestMatch?_eq_some hm).1⟩
    · exact ih h
  | case3 c rest hm hlt word' tag hp ih =>
    simp only [segmentationOf, report, List.mem_cons] at h
    rcases h with rfl | h
    · exact .inr (unlistedPiece_head hp)
    · exact ih h
  | case4 c rest hm hlt hp ih => exact ih h

theorem IsQuietAt.not_begins {lexicon : Lexicon} {text word : Text} (hq : lexicon.IsQuietAt text)
    (hw : (∃ tag, lexicon.tag? word = some tag) ∨
      ∃ c rest, word = c :: rest ∧ Unicode.isAlphanumeric c = true) : ¬word <+: text := by
  rcases hw with ⟨tag, ht⟩ | ⟨c, rest, rfl, hc⟩
  · exact hq.no_word word tag ht
  · rintro ⟨after, rfl⟩
    have hn := hq.no_letter c (rest ++ after) rfl
    rw [hc] at hn
    cases hn

/-- Neither a word of the lexicon nor an alphanumeric character begins in a gap before a text. -/
def IsQuietIn (lexicon : Lexicon) (gap text : Text) : Prop :=
  ∀ a b, gap = a ++ b → b ≠ [] → lexicon.IsQuietAt (b ++ text)

theorem isQuietIn_nil (lexicon : Lexicon) (text : Text) : lexicon.IsQuietIn [] text := by
  intro a b hab hb
  exact absurd (List.append_eq_nil_iff.mp hab.symm).2 hb

/-- A gap grows by a character at which nothing begins. -/
theorem IsQuietIn.snoc {lexicon : Lexicon} {gap rest : Text} {c : Char}
    (hg : lexicon.IsQuietIn gap (c :: rest)) (hc : lexicon.IsQuietAt (c :: rest)) :
    lexicon.IsQuietIn (gap ++ [c]) rest := by
  intro a b hab hb
  rcases List.eq_nil_or_concat b with rfl | ⟨b', x, rfl⟩
  · exact absurd rfl hb
  · rw [List.concat_eq_append, ← List.append_assoc] at hab
    obtain ⟨rfl, hx⟩ := List.append_inj' hab rfl
    cases hx
    rw [List.concat_eq_append, List.append_assoc]
    by_cases hb' : b' = []
    · subst hb'
      exact hc
    · exact hg a b' rfl hb'

/-- A piece that is reported closes the gap before it, where all that is reported later is quiet. -/
theorem isClear_reported {lexicon : Lexicon} {gap word tag text : Text} {later : List Piece}
    (hg : lexicon.IsQuietIn gap text) (hp : lexicon.pieces text = .reported word tag :: later)
    (hl : (layoutFrom [] later).IsClear) : (layoutFrom gap (.reported word tag :: later)).IsClear := by
  refine ⟨fun a b hab hb v hv => ?_, hl⟩
  have htext : word ++ (layoutFrom [] later).text = text := by
    rw [text_layoutFrom, ← flatMap_pieces lexicon text, hp]
    rfl
  have hmem : v ∈ (segmentationOf (lexicon.pieces text)).words := by
    rw [hp, ← words_layoutFrom []]
    exact hv
  rw [List.append_assoc, htext]
  exact (hg a b hab hb).not_begins (mem_words_segmentationOf hmem)

/-- The words of a lexicon stand where weaving looks for them: between two of them there are only
characters at which none of them begins. -/
theorem isClear_layoutFrom {lexicon : Lexicon} (hs : lexicon.IsSound) (text gap : Text)
    (hg : lexicon.IsQuietIn gap text) : (layoutFrom gap (lexicon.pieces text)).IsClear := by
  fun_induction pieces lexicon text generalizing gap with
  | case1 => trivial
  | case2 c rest hit h hlt ih =>
    exact isClear_reported hg (pieces_cons_of_some h) (ih [] (isQuietIn_nil _ _))
  | case3 c rest h hlt word tag hp ih =>
    refine isClear_reported hg ?_ (ih [] (isQuietIn_nil _ _))
    rw [pieces_cons_of_none h, hp, Option.elim_some]
  | case4 c rest h hlt hp ih =>
    refine ih (gap ++ [c]) ?_
    rw [(unlistedPiece_eq_none hp).2]
    exact hg.snoc (isQuietAt_of_skipped hs h hp)

theorem isClear_layoutOf {lexicon : Lexicon} (hs : lexicon.IsSound) (text : Text) :
    (layoutOf (lexicon.pieces text)).IsClear :=
  isClear_layoutFrom hs text [] (isQuietIn_nil _ _)

/-! ## Weaving what a lexicon reports -/

theorem ne_nil_of_mem_words {lexicon : Lexicon} (hs : lexicon.IsSound) {text word : Text}
    (h : word ∈ (lexicon.segment text).words) : word ≠ [] := by
  rw [segment_eq] at h
  rcases mem_words_segmentationOf h with ⟨tag, ht⟩ | ⟨c, rest, rfl, -⟩
  · exact hs.ne_nil _ (mem_of_tag? ht)
  · exact List.cons_ne_nil c rest

/-- Weaving finds every word where the lexicon found it. -/
theorem layout_segment {lexicon : Lexicon} (hs : lexicon.IsSound) (chunk : Text) :
    Segmentation.layout chunk (lexicon.segment chunk).words = layoutOf (lexicon.pieces chunk) := by
  have htext : (layoutOf (lexicon.pieces chunk)).text = chunk := by
    rw [layoutOf, text_layoutFrom, flatMap_pieces, List.nil_append]
  have hwords : (layoutOf (lexicon.pieces chunk)).words = (lexicon.segment chunk).words := by
    rw [layoutOf, words_layoutFrom, segment_eq]
  have hfind := Layout.find_eq_self (isClear_layoutOf hs chunk)
  rw [htext, hwords] at hfind
  rw [layout_of_forall_ne_nil fun w hw => ne_nil_of_mem_words hs hw, hfind]

theorem assignTags_layoutFrom (before gap : Text) (pieces : List Piece) :
    assignTags ((layoutFrom gap pieces).tokensFrom before) (segmentationOf pieces).tags =
      tokensFrom (before ++ gap) pieces := by
  induction pieces generalizing before gap with
  | nil => simp [layoutFrom, Layout.tokensFrom, segmentationOf, Segmentation.empty, assignTags_nil,
      tokensFrom]
  | cons piece pieces ih =>
    cases piece with
    | skipped c =>
      rw [layoutFrom, segmentationOf, ih, tokensFrom, List.append_assoc]
    | reported word tag =>
      by_cases hw : word.isLexical = true
      · simp only [layoutFrom, Layout.tokensFrom, segmentationOf, report, tokensFrom, hw, if_true]
        rw [assignTags_fillGap_append, assignTags_lexical, ih, List.append_nil]
      · simp only [layoutFrom, Layout.tokensFrom, segmentationOf, report, tokensFrom, hw]
        rw [if_neg Bool.false_ne_true, if_neg Bool.false_ne_true, if_neg Bool.false_ne_true, ih,
          List.append_nil]

theorem length_tags_segmentationOf (gap : Text) (pieces : List Piece) :
    (segmentationOf pieces).tags.length = (layoutFrom gap pieces).lexicalWords.length := by
  induction pieces generalizing gap with
  | nil => rfl
  | cons piece pieces ih =>
    cases piece with
    | skipped c => exact ih _
    | reported word tag =>
      have hl := ih []
      by_cases hw : word.isLexical = true
      · simpa [layoutFrom, segmentationOf, report, Layout.lexicalWords, Layout.words, hw] using hl
      · simpa [layoutFrom, segmentationOf, report, Layout.lexicalWords, Layout.words, hw] using hl

/-- The words are woven where they were found, with the tags that they were found with. -/
theorem attachTags_segment {lexicon : Lexicon} (hs : lexicon.IsSound) (chunk : Text) :
    attachTags (weave chunk (lexicon.segment chunk).words) (lexicon.segment chunk).tags =
      .ok (tokensOf (lexicon.pieces chunk)) := by
  refine attachTags_eq_ok_iff.mpr ⟨?_, ?_⟩
  · rw [countP_weave, layout_segment hs, segment_eq]
    exact length_tags_segmentationOf [] _
  · rw [weave_eq_tokens, layout_segment hs, segment_eq]
    exact (assignTags_layoutFrom [] [] _).symm

end Hanyu.Lexicon
