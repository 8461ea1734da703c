import Hanyu.Segmentation

/-!
# Layouts

A layout takes a chunk apart: words in the order of the text, each with the text before it, and the
text after the last one. A segmenter knows such a layout but reports its words only, and weaving
finds one again.

* `Text.exists_cut?`: a text is cut at the first occurrence of a word.
* `Segmentation.nextMatch?_eq_some`: where weaving goes on, and which words it passes over.
* `Segmentation.weave_eq_tokens`: weaving gives the tokens of the layout that it finds.
* `Layout.find_eq_self`: when no word occurs too early, weaving finds the words where they stand.
-/

namespace Hanyu

/-! ## Words in a text -/

namespace Text

theorem rest?_eq_none_iff {text word : Text} : text.rest? word = none ↔ ¬word <+: text := by
  constructor
  · rintro h ⟨rest, rfl⟩
    rw [rest?_append] at h
    cases h
  · intro h
    cases hr : text.rest? word with
    | none => rfl
    | some rest => exact absurd ⟨rest, (rest?_eq_some_iff.mp hr).symm⟩ h

/-- A text that a word occurs in is cut, and at no later occurrence. -/
theorem exists_cut? (before word rest : Text) :
    ∃ b r, cut? (before ++ word ++ rest) word = some (b, r) ∧ b.length ≤ before.length := by
  induction before with
  | nil =>
    refine ⟨[], rest, ?_, Nat.le_refl _⟩
    cases h : word ++ rest with
    | nil =>
      obtain ⟨rfl, rfl⟩ := List.append_eq_nil_iff.mp h
      simp [cut?, rest?]
    | cons c text => simp [cut?, h, rest?_eq_some_iff.mpr h.symm]
  | cons c before ih =>
    obtain ⟨b, r, h, hle⟩ := ih
    simp only [List.cons_append, cut?]
    split
    · rename_i r' _
      exact ⟨[], r', rfl, Nat.zero_le _⟩
    · exact ⟨c :: b, r, by rw [h]; rfl, by simpa using hle⟩

/-- A text is cut where a word stands that does not begin anywhere before. -/
theorem cut?_append {before word : Text} (rest : Text)
    (h : ∀ a b, before = a ++ b → b ≠ [] → ¬word <+: b ++ word ++ rest) :
    cut? (before ++ word ++ rest) word = some (before, rest) := by
  obtain ⟨b, r, hc, hle⟩ := exists_cut? before word rest
  have he : before ++ word ++ rest = b ++ word ++ r := cut?_eq_some hc
  have hb : b <+: before ++ word ++ rest := ⟨word ++ r, by rw [he, List.append_assoc]⟩
  have hbefore : before <+: before ++ word ++ rest := ⟨word ++ rest, by rw [List.append_assoc]⟩
  obtain ⟨b', rfl⟩ : b <+: before := List.prefix_of_prefix_length_le hb hbefore hle
  have he' : b' ++ word ++ rest = word ++ r := by
    simpa only [List.append_assoc, List.append_cancel_left_eq] using he
  obtain rfl : b' = [] := by
    by_cases hb : b' = []
    · exact hb
    · exact absurd ⟨r, he'.symm⟩ (h b b' rfl hb)
  simp only [List.nil_append, List.append_cancel_left_eq] at he'
  rw [hc, List.append_nil, he']

end Text

/-! ## Where weaving goes on -/

namespace Segmentation

theorem matchHere?_eq_none_iff {text : Text} {words : List Text} :
    matchHere? text words = none ↔ ∀ w ∈ words, ¬w <+: text := by
  induction words with
  | nil => simp [matchHere?]
  | cons word later ih =>
    rw [matchHere?]
    cases h : text.rest? word with
    | some rest =>
      have hp : word <+: text := ⟨rest, (Text.rest?_eq_some_iff.mp h).symm⟩
      simp [hp]
    | none => simp [ih, Text.rest?_eq_none_iff.mp h]

/-- The words before the first one with which the text begins are passed over. -/
theorem matchHere?_eq_some {text : Text} {words : List Text} {found : Match}
    (h : matchHere? text words = some found) :
    ∃ passed, words = passed ++ found.word :: found.later ∧ found.gap = [] ∧
      text = found.word ++ found.rest ∧ ∀ w ∈ passed, ¬w <+: text := by
  induction words with
  | nil => simp [matchHere?] at h
  | cons word later ih =>
    rw [matchHere?] at h
    split at h
    · rename_i rest hr
      cases h
      exact ⟨[], rfl, rfl, Text.rest?_eq_some_iff.mp hr, by simp⟩
    · rename_i hr
      obtain ⟨passed, rfl, hg, ht, hp⟩ := ih h
      refine ⟨word :: passed, rfl, hg, ht, ?_⟩
      simpa [Text.rest?_eq_none_iff.mp hr] using hp

/-- Weaving goes on at a word with which the text begins, or else at the next occurrence of the
first word. -/
theorem nextMatch?_eq_some {text word : Text} {later : List Text} {found : Match}
    (h : nextMatch? text word later = some found) :
    matchHere? text (word :: later) = some found ∨
      (matchHere? text (word :: later) = none ∧ found.word = word ∧ found.later = later ∧
        text.cut? word = some (found.gap, found.rest)) := by
  unfold nextMatch? at h
  split at h
  · rename_i m hm
    cases h
    exact .inl hm
  · rename_i hm
    obtain ⟨⟨gap, rest⟩, hc, rfl⟩ := Option.map_eq_some_iff.mp h
    exact .inr ⟨hm, rfl, rfl, hc⟩

theorem nextMatch?_append (gap word rest : Text) (later : List Text) :
    ∃ found, nextMatch? (gap ++ word ++ rest) word later = some found := by
  unfold nextMatch?
  split
  · exact ⟨_, rfl⟩
  · obtain ⟨b, r, h, -⟩ := Text.exists_cut? gap word rest
    exact ⟨_, by rw [h]; rfl⟩

theorem mem_fillGap {gap : Text} {token : Token} (h : token ∈ fillGap gap) :
    ∃ gap, gap ≠ [] ∧ token = .filler gap := by
  unfold fillGap at h
  split at h
  · cases h
  · rename_i hg
    exact ⟨gap, hg, by simpa using h⟩

@[simp] theorem filter_fillGap (gap : Text) : (fillGap gap).filter Token.isLexical = [] := by
  refine List.filter_eq_nil_iff.mpr fun token h => ?_
  obtain ⟨_, -, rfl⟩ := mem_fillGap h
  simp [Token.filler]

end Segmentation

/-! ## Layouts -/

/-- A chunk taken apart. -/
inductive Layout where
  /-- The text after the last word. -/
  | rest (text : Text)
  /-- The text before a word, the word, and what comes after it. -/
  | next (gap word : Text) (later : Layout)
deriving DecidableEq, Repr

namespace Layout

open Segmentation

/-- The chunk. -/
def text : Layout → Text
  | rest text => text
  | next gap word later => gap ++ word ++ later.text

/-- The words in their order. -/
def words : Layout → List Text
  | rest _ => []
  | next _ word later => word :: later.words

/-- The words that carry a letter, a numeral or an ideograph. -/
def lexicalWords (layout : Layout) : List Text := layout.words.filter Text.isLexical

/-- The tokens of a gap that has been read, and of the layout after it: one for every lexical word,
and one for all that stands between two of them. -/
def tokensFrom (before : Text) : Layout → List Token
  | rest text => fillGap (before ++ text)
  | next gap word later =>
    if word.isLexical then fillGap (before ++ gap) ++ Token.lexical word :: later.tokensFrom []
    else later.tokensFrom (before ++ gap ++ word)

/-- The tokens of a chunk with this layout. -/
def tokens (layout : Layout) : List Token := layout.tokensFrom []

/-- The lexical tokens are the lexical words. -/
theorem filter_tokensFrom (layout : Layout) (before : Text) :
    (layout.tokensFrom before).filter Token.isLexical = layout.lexicalWords.map Token.lexical := by
  induction layout generalizing before with
  | rest text => simp [tokensFrom, lexicalWords, words]
  | next gap word later ih =>
    by_cases hw : word.isLexical = true
    · simp [tokensFrom, hw, ih, lexicalWords, words, Token.lexical]
    · simp [tokensFrom, hw, ih, lexicalWords, words]

/-- A token is a lexical word or a gap with something in it. -/
theorem mem_tokensFrom {layout : Layout} {before : Text} {token : Token}
    (h : token ∈ layout.tokensFrom before) :
    (∃ w ∈ layout.lexicalWords, token = .lexical w) ∨ ∃ gap, gap ≠ [] ∧ token = .filler gap := by
  by_cases hl : token.isLexical = true
  · have hf : token ∈ (layout.tokensFrom before).filter Token.isLexical :=
      List.mem_filter.mpr ⟨h, hl⟩
    rw [filter_tokensFrom] at hf
    obtain ⟨w, hw, rfl⟩ := List.mem_map.mp hf
    exact .inl ⟨w, hw, rfl⟩
  · right
    induction layout generalizing before with
    | rest text => exact mem_fillGap h
    | next gap word later ih =>
      by_cases hw : word.isLexical = true
      · rw [tokensFrom, if_pos hw] at h
        rcases List.mem_append.mp h with h | h
        · exact mem_fillGap h
        · rcases List.mem_cons.mp h with rfl | h
          · simp [Token.lexical] at hl
          · exact ih h
      · rw [tokensFrom, if_neg hw] at h
        exact ih h

/-- The layout that weaving finds in a text for some words. -/
def find (text : Text) (words : List Text) : Layout :=
  match words with
  | [] => rest text
  | word :: later =>
    match h : nextMatch? text word later with
    | none => find text later
    | some found =>
      have := length_later_le_of_nextMatch? h
      next found.gap found.word (find found.rest found.later)
termination_by words.length

theorem find_nil (text : Text) : find text [] = rest text := by rw [find]

theorem find_cons_of_some {text word : Text} {later : List Text} {found : Match}
    (h : nextMatch? text word later = some found) :
    find text (word :: later) = next found.gap found.word (find found.rest found.later) := by
  rw [find]
  split
  · rename_i hn
    rw [h] at hn
    cases hn
  · rename_i m hm
    rw [h] at hm
    cases hm
    rfl

theorem find_cons_of_none {text word : Text} {later : List Text}
    (h : nextMatch? text word later = none) : find text (word :: later) = find text later := by
  rw [find]
  split
  · rfl
  · rename_i hm
    rw [h] at hm
    cases hm

/-- What weaving finds in a text is a layout of this text. -/
theorem text_find (text : Text) (words : List Text) : (find text words).text = text := by
  fun_induction find text words with
  | case1 => rfl
  | case2 text word later h ih => exact ih
  | case3 text word later found h hlt ih =>
    rw [Layout.text, ih]
    exact append_of_nextMatch? h

/-- No word begins in the gap before another one that it does not precede. -/
def IsClear : Layout → Prop
  | rest _ => True
  | next gap word later =>
    (∀ a b, gap = a ++ b → b ≠ [] → ∀ v ∈ word :: later.words, ¬v <+: b ++ word ++ later.text) ∧
      later.IsClear

/-- A clear layout is found again from its words. -/
theorem find_eq_self {layout : Layout} (h : layout.IsClear) :
    find layout.text layout.words = layout := by
  induction layout with
  | rest text => exact find_nil text
  | next gap word later ih =>
    obtain ⟨hg, hl⟩ := h
    have hn : nextMatch? (gap ++ word ++ later.text) word later.words =
        some ⟨gap, word, later.text, later.words⟩ := by
      by_cases hgap : gap = []
      · subst hgap
        simp [nextMatch?, matchHere?]
      · have hm : matchHere? (gap ++ word ++ later.text) (word :: later.words) = none :=
          matchHere?_eq_none_iff.mpr (hg [] gap rfl hgap)
        have hc : (gap ++ word ++ later.text).cut? word = some (gap, later.text) :=
          Text.cut?_append later.text fun a b hab hb => hg a b hab hb word List.mem_cons_self
        rw [nextMatch?, hm, hc]
        rfl
    rw [text, words, find_cons_of_some hn, ih hl]

end Layout

/-! ## Weaving and layouts -/

namespace Segmentation

/-- The layout that weaving finds in a chunk. -/
def layout (chunk : Text) (words : List Text) : Layout :=
  .find chunk (words.filter fun word => !word.isEmpty)

theorem weaveFrom_eq_tokensFrom (gap text : Text) (words : List Text) :
    weaveFrom gap text words = (Layout.find text words).tokensFrom gap := by
  fun_induction weaveFrom gap text words with
  | case1 gap text => rw [Layout.find_nil, Layout.tokensFrom]
  | case2 gap text word later h ih => rw [Layout.find_cons_of_none h, ih]
  | case3 gap text word later found h hlt hl ih =>
    rw [Layout.find_cons_of_some h, Layout.tokensFrom, if_pos hl, ih]
  | case4 gap text word later found h hlt hl ih =>
    rw [Layout.find_cons_of_some h, Layout.tokensFrom, if_neg hl, ih]

/-- Weaving gives the tokens of the layout that it finds. -/
theorem weave_eq_tokens (chunk : Text) (words : List Text) :
    weave chunk words = (layout chunk words).tokens :=
  weaveFrom_eq_tokensFrom [] chunk _

/-- The lexical tokens are the lexical words that weaving finds. -/
theorem filter_weave (chunk : Text) (words : List Text) :
    (weave chunk words).filter Token.isLexical =
      (layout chunk words).lexicalWords.map Token.lexical := by
  rw [weave_eq_tokens, Layout.tokens, Layout.filter_tokensFrom]

theorem layout_of_forall_ne_nil {chunk : Text} {words : List Text} (h : ∀ w ∈ words, w ≠ []) :
    layout chunk words = .find chunk words := by
  rw [layout, List.filter_eq_self.mpr]
  intro w hw
  simpa using h w hw

end Segmentation

end Hanyu
