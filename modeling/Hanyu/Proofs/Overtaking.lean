import Hanyu.Proofs.Tagging
import Mathlib.Data.List.Flatten

/-!
# Overtaken words

A segmenter may report some of what stands between the lexical words of a chunk and leave out the
rest. Weaving then finds such a word too early at times, and passes over the words before it.

* `Layout.IsFaithful`: whatever is not in a word is punctuation or blank.
* `Segmentation.overtaken`: the lexical words that weaving passes over.
* `Layout.IsFaithful.step`: unless that happens, the words still to be found are those of a faithful
  layout of the text after the word found.
* `Layout.IsFaithful.lexicalWords_find`: so weaving finds every lexical word when none is overtaken.
* `Segmentation.keeps_iff_overtaken`: the tokens, the tags and the filler are as they should be
  exactly when none is.
-/

namespace Hanyu

/-! ## Counting alphanumeric characters -/

namespace Text

/-- How many letters, numerals and ideographs a text holds. -/
def weight (text : Text) : Nat := text.countP Unicode.isAlphanumeric

@[simp] theorem weight_append (a b : Text) : (a ++ b).weight = a.weight + b.weight :=
  List.countP_append

theorem weight_eq_zero_iff {text : Text} : text.weight = 0 ↔ text.isLexical = false := by
  simp [weight, isLexical]

theorem weight_pos {text : Text} (h : text.isLexical = true) : 0 < text.weight := by
  have : text.weight ≠ 0 := by simp [weight_eq_zero_iff, h]
  omega

/-- Some of many lexical words weigh less than all of them. -/
theorem eq_of_sublist_of_weight {some all : List Text} (h : some.Sublist all)
    (hl : ∀ word ∈ all, word.isLexical = true) (hw : weight all.flatten ≤ weight some.flatten) :
    some = all := by
  induction h with
  | slnil => rfl
  | @cons some all word hs ih =>
    have hle : weight some.flatten ≤ weight all.flatten := hs.flatten.countP_le
    have hpos := weight_pos (hl word List.mem_cons_self)
    rw [List.flatten_cons, weight_append] at hw
    omega
  | @cons_cons some all word hs ih =>
    simp only [List.flatten_cons, weight_append] at hw
    rw [ih (fun v hv => hl v (List.mem_cons_of_mem _ hv)) (by omega)]

end Text

/-- The weight of tokens is that of the lexical ones and that of the others. -/
theorem Token.weight_flatMap_surface (tokens : List Token) :
    Text.weight (tokens.flatMap Token.surface) =
      Text.weight ((tokens.filter Token.isLexical).flatMap Token.surface) +
        Text.weight ((tokens.filter fun token => !token.isLexical).flatMap Token.surface) := by
  induction tokens with
  | nil => rfl
  | cons token tokens ih =>
    cases hl : token.isLexical <;> simp [hl, ih] <;> omega

theorem Token.weight_eq_zero_iff (tokens : List Token) :
    Text.weight (tokens.flatMap Token.surface) = 0 ↔
      ∀ token ∈ tokens, token.surface.isLexical = false := by
  simp [Text.weight_eq_zero_iff, Text.isLexical, List.any_flatMap]

theorem Token.flatMap_lexical (words : List Text) :
    (words.map Token.lexical).flatMap Token.surface = words.flatten := by
  induction words <;> simp_all [Token.lexical]

/-! ## Faithful layouts -/

namespace Layout

open Segmentation

/-- No word is empty, and what is not in a word is punctuation or blank. -/
def IsFaithful : Layout → Prop
  | rest text => text.isLexical = false
  | next gap word later => gap.isLexical = false ∧ word ≠ [] ∧ later.IsFaithful

instance decidableIsFaithful : (layout : Layout) → Decidable layout.IsFaithful
  | rest text => inferInstanceAs (Decidable (text.isLexical = false))
  | next gap word later =>
    have := decidableIsFaithful later
    inferInstanceAs (Decidable (gap.isLexical = false ∧ word ≠ [] ∧ later.IsFaithful))

/-- The layout of a text with more text in front. -/
def prepend (text : Text) : Layout → Layout
  | rest text' => rest (text ++ text')
  | next gap word later => next (text ++ gap) word later

@[simp] theorem text_prepend (text : Text) (layout : Layout) :
    (layout.prepend text).text = text ++ layout.text := by
  cases layout <;> simp [prepend, Layout.text]

@[simp] theorem words_prepend (text : Text) (layout : Layout) :
    (layout.prepend text).words = layout.words := by
  cases layout <;> rfl

theorem IsFaithful.prepend {layout : Layout} (h : layout.IsFaithful) {text : Text}
    (ht : text.isLexical = false) : (layout.prepend text).IsFaithful := by
  cases layout with
  | rest text' =>
    have h' : text'.isLexical = false := h
    simp [Layout.prepend, IsFaithful, ht, h']
  | next gap word later =>
    obtain ⟨hg, hw, hl⟩ := h
    exact ⟨by simp [ht, hg], hw, hl⟩

theorem IsFaithful.ne_nil {layout : Layout} (h : layout.IsFaithful) :
    ∀ w ∈ layout.words, w ≠ [] := by
  induction layout with
  | rest text => simp [words]
  | next gap word later ih =>
    intro w hw
    rcases List.mem_cons.mp hw with rfl | hw
    · exact h.2.1
    · exact ih h.2.2 w hw

/-- All that has weight is in the lexical words. -/
theorem IsFaithful.weight_text {layout : Layout} (h : layout.IsFaithful) :
    layout.text.weight = Text.weight layout.lexicalWords.flatten := by
  induction layout with
  | rest text => exact Text.weight_eq_zero_iff.mpr h
  | next gap word later ih =>
    have hg : gap.weight = 0 := Text.weight_eq_zero_iff.mpr h.1
    have ihl : later.text.weight = Text.weight (later.words.filter Text.isLexical).flatten := ih h.2.2
    by_cases hw : word.isLexical = true
    · simp [text, lexicalWords, words, hw, hg, ihl]
    · have hz : word.weight = 0 := Text.weight_eq_zero_iff.mpr (by simpa using hw)
      simp [text, lexicalWords, words, hw, hg, hz, ihl]

/-- In a faithful layout no word begins in a gap when all words begin with an alphanumeric
character. -/
theorem IsFaithful.isClear {layout : Layout} (h : layout.IsFaithful)
    (hw : ∀ w ∈ layout.words, w.head?.any Unicode.isAlphanumeric = true) : layout.IsClear := by
  induction layout with
  | rest text => trivial
  | next gap word later ih =>
    obtain ⟨hg, -, hl⟩ := h
    refine ⟨fun a b hab hb v hv hp => ?_, ih hl fun w hm => hw w (List.mem_cons_of_mem _ hm)⟩
    obtain ⟨c, hc, halpha⟩ := (Option.any_eq_true _ _).mp (hw v hv)
    obtain ⟨v', rfl⟩ := List.head?_eq_some_iff.mp hc
    cases b with
    | nil => exact hb rfl
    | cons d b =>
      obtain ⟨rfl, -⟩ := List.cons_prefix_cons.mp hp
      have hgl : gap.isLexical = true :=
        Text.isLexical_eq_true_iff.mpr ⟨c, by simp [hab], halpha⟩
      rw [hg] at hgl
      cases hgl

/-- A faithful layout, taken apart at a word before which there is no lexical one. -/
theorem IsFaithful.split {layout : Layout} (h : layout.IsFaithful) {passed later : List Text}
    {word : Text} (hw : layout.words = passed ++ word :: later)
    (hp : ∀ w ∈ passed, w.isLexical = false) :
    ∃ (before : Text) (after : Layout), layout.text = before ++ word ++ after.text ∧ before.isLexical = false ∧
      after.words = later ∧ after.IsFaithful := by
  induction layout generalizing passed with
  | rest text => simp [words] at hw
  | next gap w layout ih =>
    obtain ⟨hg, -, hl⟩ := h
    cases passed with
    | nil =>
      obtain ⟨rfl, rfl⟩ := List.cons.inj hw
      exact ⟨gap, layout, rfl, hg, rfl, hl⟩
    | cons p passed =>
      obtain ⟨rfl, hw'⟩ := List.cons.inj hw
      obtain ⟨before, after, ht, hb, ha⟩ := ih hl hw' fun v hv => hp v (List.mem_cons_of_mem _ hv)
      refine ⟨gap ++ w ++ before, after, ?_, ?_, ha⟩
      · simp [text, ht]
      · simp [hg, hb, hp w List.mem_cons_self]

end Layout

/-! ## Words that are passed over -/

namespace Segmentation

/-- The words before the one found. -/
def passedOver (words : List Text) (found : Match) : List Text :=
  words.take (words.length - (found.later.length + 1))

/-- The lexical words that weaving passes over, because the text goes on with a later word. -/
def overtaken (text : Text) (words : List Text) : List Text :=
  match words with
  | [] => []
  | word :: later =>
    match h : nextMatch? text word later with
    | none => overtaken text later
    | some found =>
      have := length_later_le_of_nextMatch? h
      (passedOver (word :: later) found).filter Text.isLexical ++ overtaken found.rest found.later
termination_by words.length

theorem passedOver_append (passed : List Text) (found : Match) :
    passedOver (passed ++ found.word :: found.later) found = passed := by
  simp [passedOver]

/-- The words are those passed over, the one found, and those still to be found. -/
theorem words_eq_of_nextMatch? {text word : Text} {later : List Text} {found : Match}
    (h : nextMatch? text word later = some found) :
    word :: later = passedOver (word :: later) found ++ found.word :: found.later := by
  rcases nextMatch?_eq_some h with h | ⟨-, rfl, rfl, -⟩
  · obtain ⟨passed, hw, -⟩ := matchHere?_eq_some h
    rw [hw, passedOver_append]
  · exact (congrArg (· ++ _) (passedOver_append [] found)).symm

theorem overtaken_cons_of_some {text word : Text} {later : List Text} {found : Match}
    (h : nextMatch? text word later = some found) :
    overtaken text (word :: later) =
      (passedOver (word :: later) found).filter Text.isLexical ++
        overtaken found.rest found.later := by
  rw [overtaken]
  split
  · rename_i hn
    rw [h] at hn
    cases hn
  · rename_i m hm
    rw [h] at hm
    cases hm
    rfl

/-- What weaving finds are lexical words in their order. -/
theorem lexicalWords_find_sublist (text : Text) (words : List Text) :
    (Layout.find text words).lexicalWords.Sublist (words.filter Text.isLexical) := by
  fun_induction Layout.find text words with
  | case1 => exact List.Sublist.refl _
  | case2 text word later h ih => exact ih.trans ((List.sublist_cons_self _ _).filter _)
  | case3 text word later found h hlt ih =>
    rw [words_eq_of_nextMatch? h, List.filter_append]
    refine List.Sublist.trans ?_ (List.sublist_append_right _ _)
    by_cases hl : found.word.isLexical = true
    · simpa [Layout.lexicalWords, Layout.words, hl] using ih
    · simpa [Layout.lexicalWords, Layout.words, hl] using ih

/-- A word that is overtaken is not found. -/
theorem length_find_add_overtaken_le (text : Text) (words : List Text) :
    (Layout.find text words).lexicalWords.length + (overtaken text words).length ≤
      (words.filter Text.isLexical).length := by
  fun_induction overtaken text words with
  | case1 text => simp [Layout.find_nil, Layout.lexicalWords, Layout.words]
  | case2 text word later h ih =>
    rw [Layout.find_cons_of_none h]
    exact Nat.le_trans ih ((List.sublist_cons_self _ _).filter _).length_le
  | case3 text word later found h hlt ih =>
    rw [Layout.find_cons_of_some h, List.length_append]
    have hw := congrArg (fun words => (words.filter Text.isLexical).length)
      (words_eq_of_nextMatch? h)
    simp only [List.filter_append, List.length_append] at hw
    rw [hw]
    by_cases hl : found.word.isLexical = true
    · simp only [Layout.lexicalWords, Layout.words, List.filter_cons_of_pos hl,
        List.length_cons] at ih ⊢
      omega
    · simp only [Layout.lexicalWords, Layout.words, List.filter_cons_of_neg hl] at ih ⊢
      omega

end Segmentation

/-! ## Weaving in faithful layouts -/

namespace Layout

open Segmentation

/-- Weaving comes no further than the word that it finds: the rest is laid out faithfully with the
words that are still to be found, as long as no lexical word is passed over. -/
theorem IsFaithful.step {layout : Layout} (h : layout.IsFaithful) {word : Text} {later : List Text}
    (hw : layout.words = word :: later) {found : Match}
    (hn : nextMatch? layout.text word later = some found)
    (hp : (passedOver (word :: later) found).filter Text.isLexical = []) :
    ∃ after : Layout, after.IsFaithful ∧ after.text = found.rest ∧ after.words = found.later := by
  have hp' : ∀ w ∈ passedOver (word :: later) found, w.isLexical = false := by
    simpa [List.filter_eq_nil_iff] using hp
  obtain ⟨before, after, ht, hb, hwa, ha⟩ := h.split (hw.trans (words_eq_of_nextMatch? hn)) hp'
  have hle : found.gap.length ≤ before.length := by
    rcases nextMatch?_eq_some hn with hm | ⟨-, hfw, -, hc⟩
    · obtain ⟨passed, -, hg, -⟩ := matchHere?_eq_some hm
      simp [hg]
    · obtain ⟨b, r, hc', hle⟩ := Text.exists_cut? before found.word after.text
      rw [← ht, hfw, hc] at hc'
      cases hc'
      exact hle
  have he : found.gap ++ (found.word ++ found.rest) = before ++ (found.word ++ after.text) := by
    rw [← List.append_assoc, append_of_nextMatch? hn, ht, List.append_assoc]
  -- The word found stands no later than in the layout, so that what is skipped has no weight.
  obtain ⟨skipped, rfl⟩ : found.gap <+: before :=
    List.prefix_of_prefix_length_le ⟨_, he⟩ ⟨_, rfl⟩ hle
  rw [List.append_assoc, List.append_cancel_left_eq, ← List.append_assoc skipped] at he
  obtain ⟨between, hbw⟩ : found.word <+: skipped ++ found.word :=
    List.prefix_of_prefix_length_le ⟨_, he⟩ ⟨_, rfl⟩ (by simp)
  rw [← hbw, List.append_assoc, List.append_cancel_left_eq] at he
  have hz : Text.isLexical between = false := by
    have hs : Text.isLexical skipped = false := by
      rw [Text.isLexical_append, Bool.or_eq_false_iff] at hb
      exact hb.2
    have hwt := congrArg Text.weight hbw
    rw [Text.weight_append, Text.weight_append, Text.weight_eq_zero_iff.mpr hs] at hwt
    exact Text.weight_eq_zero_iff.mp (by omega)
  refine ⟨after.prepend between, ha.prepend hz, ?_, ?_⟩
  · rw [text_prepend, he]
  · rw [words_prepend, hwa]

/-- Weaving finds every lexical word of a faithful layout when it passes over none. -/
theorem IsFaithful.lexicalWords_find {layout : Layout} (h : layout.IsFaithful) {text : Text}
    {words : List Text} (ht : layout.text = text) (hw : layout.words = words)
    (ho : overtaken text words = []) :
    (find text words).lexicalWords = words.filter Text.isLexical := by
  fun_induction find text words generalizing layout with
  | case1 text => rfl
  | case2 text word later hn ih =>
    -- The first word of a layout is in its text.
    cases layout with
    | rest t => cases hw
    | next gap w layout =>
      obtain ⟨rfl, rfl⟩ := List.cons.inj hw
      obtain ⟨found, hs⟩ := nextMatch?_append gap w layout.text layout.words
      rw [← ht] at hn
      cases hs.symm.trans hn
  | case3 text word later found hn hlt ih =>
    subst ht
    rw [overtaken_cons_of_some hn, List.append_eq_nil_iff] at ho
    obtain ⟨after, ha, hta, hwa⟩ := h.step hw hn ho.1
    have hrest := ih ha hta hwa ho.2
    rw [words_eq_of_nextMatch? hn, List.filter_append, ho.1, List.nil_append]
    by_cases hl : found.word.isLexical = true
    · simpa [lexicalWords, Layout.words, hl] using hrest
    · simpa [lexicalWords, Layout.words, hl] using hrest

end Layout

namespace Segmentation

/-- Weaving finds all lexical words of a faithful layout exactly when it passes over none. -/
theorem lexicalWords_find_eq_iff {layout : Layout} (h : layout.IsFaithful) :
    (Layout.find layout.text layout.words).lexicalWords = layout.lexicalWords ↔
      overtaken layout.text layout.words = [] := by
  constructor
  · intro he
    have hle := length_find_add_overtaken_le layout.text layout.words
    rw [he, Layout.lexicalWords] at hle
    exact List.length_eq_zero_iff.mp (by omega)
  · exact h.lexicalWords_find rfl rfl

/-- The other tokens have no weight exactly when the lexical ones have all of it. -/
theorem forall_filler_iff {layout : Layout} (h : layout.IsFaithful) :
    (∀ token ∈ weave layout.text layout.words, token.isLexical = false →
        token.surface.isLexical = false) ↔
      (Layout.find layout.text layout.words).lexicalWords = layout.lexicalWords := by
  have hf : Segmentation.layout layout.text layout.words = .find layout.text layout.words :=
    layout_of_forall_ne_nil h.ne_nil
  have hw := Token.weight_flatMap_surface (weave layout.text layout.words)
  rw [surface_weave, filter_weave, hf, h.weight_text, Token.flatMap_lexical] at hw
  have hz := Token.weight_eq_zero_iff
    ((weave layout.text layout.words).filter fun token => !token.isLexical)
  simp only [List.mem_filter, Bool.not_eq_true', and_imp] at hz
  rw [← hz]
  constructor
  · intro h0
    have hle : Text.weight layout.lexicalWords.flatten ≤
        Text.weight (Layout.find layout.text layout.words).lexicalWords.flatten := by omega
    exact Text.eq_of_sublist_of_weight (lexicalWords_find_sublist _ _)
      (fun word hword => (List.mem_filter.mp hword).2) hle
  · intro he
    rw [he] at hw
    omega

/-- **No lexical word is lost unless it is overtaken.** Of a chunk that is laid out faithfully, all
lexical words come out as tokens in their order, as many tags as lexical words can be given to
them, and no filler holds a letter, a numeral or an ideograph: each of these exactly when weaving
passes over no lexical word. It passes over none when no word begins in a gap before its place, and
so when all words begin with an alphanumeric character. -/
theorem keeps_iff_overtaken {layout : Layout} (h : layout.IsFaithful) {tags : List Text}
    (ht : tags.length = layout.lexicalWords.length) :
    ((weave layout.text layout.words).filter Token.isLexical =
        layout.lexicalWords.map Token.lexical ↔ overtaken layout.text layout.words = []) ∧
      ((∃ tagged, attachTags (weave layout.text layout.words) tags = .ok tagged) ↔
        overtaken layout.text layout.words = []) ∧
      ((∀ token ∈ weave layout.text layout.words, token.isLexical = false →
        token.surface.isLexical = false) ↔ overtaken layout.text layout.words = []) ∧
      (layout.IsClear → overtaken layout.text layout.words = []) ∧
      ((∀ w ∈ layout.words, w.head?.any Unicode.isAlphanumeric = true) →
        overtaken layout.text layout.words = []) := by
  have hf : Segmentation.layout layout.text layout.words = .find layout.text layout.words :=
    layout_of_forall_ne_nil h.ne_nil
  rw [← lexicalWords_find_eq_iff h]
  have hclear : layout.IsClear →
      (Layout.find layout.text layout.words).lexicalWords = layout.lexicalWords := by
    intro hc
    rw [Layout.find_eq_self hc]
  refine ⟨?_, ?_, forall_filler_iff h, hclear, fun hw => hclear (h.isClear hw)⟩
  · rw [filter_weave, hf]
    exact List.map_inj_right fun a b hab => (Token.mk.inj hab).1
  · simp only [attachTags_eq_ok_iff, countP_weave, hf, ht]
    constructor
    · rintro ⟨tagged, hn, -⟩
      exact (lexicalWords_find_sublist _ _).eq_of_length hn.symm
    · intro he
      exact ⟨_, by rw [he], rfl⟩

/-- A segmenter that reports a blank and leaves the punctuation out. -/
theorem keeps_iff_overtaken_blank :
    let layout : Layout := .next ['，'] ['好'] (.next [] [' '] (.next [] ['的'] (.rest ['，'])))
    layout.IsFaithful ∧ layout.text = "，好 的，".toList ∧ layout.words = [['好'], [' '], ['的']] ∧
      overtaken layout.text layout.words = [] ∧
        (weave layout.text layout.words).filter Token.isLexical =
            [.lexical ['好'], .lexical ['的']] ∧
          ∃ tagged, attachTags (weave layout.text layout.words) [['a'], ['u']] = .ok tagged := by
  intro layout
  have hf : layout.IsFaithful := by decide +kernel
  have ho : overtaken layout.text layout.words = [] := by decide +kernel
  obtain ⟨hl, ht, -⟩ := keeps_iff_overtaken hf (by decide +kernel : [['a'], ['u']].length = _)
  exact ⟨hf, rfl, rfl, ho, (hl.mpr ho).trans (by decide +kernel), ht.mpr ho⟩

/-- A segmenter that leaves out the first comma and reports the second one: weaving finds the
second comma at the first one, and the word between them is lost. -/
theorem overtaken_comma :
    let layout : Layout := .next ['，'] ['好'] (.next [] ['，'] (.rest []))
    layout.IsFaithful ∧ layout.text = "，好，".toList ∧ layout.words = [['好'], ['，']] ∧
      layout.lexicalWords = [['好']] ∧ overtaken layout.text layout.words = [['好']] ∧
        weave layout.text layout.words = [.filler "，好，".toList] ∧
          attachTags (weave layout.text layout.words) [['a']] =
            .error (.consistency (.tags 1 0)) := by
  decide +kernel

end Segmentation

end Hanyu
