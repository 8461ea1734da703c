import Hanyu.Proofs.Layout
import Mathlib.Data.List.Infix
import Mathlib.Data.List.SplitBy

/-!
# Recovered layouts

The parts of a chunk are its gaps and its words in their order. Which tokens they make can be said
without going through the chunk: every lexical word is a token, and so is every run of other parts
that is as long as possible.

* `Layout.AreFiller.condense_eq`, `Layout.condense_append_lexical`: what runs of parts come to.
* `Layout.canonical_eq_tokens`: reading a layout from left to right gives one token for each run.
* `Segmentation.weave_eq_canonical`: weaving recovers every layout in which no word begins too
  early.
* `Segmentation.weave_flatten`: so a text that is cut into words comes apart where it was cut.
-/

namespace Hanyu

namespace Layout

open Segmentation

/-! ## Parts and runs -/

/-- The parts of a chunk in their order, with those in which nothing is. A word without a letter, a
numeral or an ideograph is filler, as a gap is. -/
def parts : Layout → List Token
  | rest text => [.filler text]
  | next gap word later =>
    .filler gap :: (if word.isLexical then .lexical word else .filler word) :: later.parts

/-- Whether two parts that follow each other belong to one token. -/
def joins (a b : Token) : Bool := !a.isLexical && !b.isLexical

/-- The token of a run of parts. -/
def merge (run : List Token) : Token :=
  let text := run.flatMap Token.surface
  if run.any Token.isLexical then .lexical text else .filler text

/-- One token for each maximal run of parts that belong together. -/
def condense (parts : List Token) : List Token := (parts.splitBy joins).map merge

/-- The tokens that a chunk with this layout should have. -/
def canonical (layout : Layout) : List Token :=
  condense (layout.parts.filter fun part => !part.surface.isEmpty)

/-- Parts that are filler, with something in each of them. -/
def AreFiller (parts : List Token) : Prop :=
  ∀ part ∈ parts, part.isLexical = false ∧ part.surface ≠ []

theorem areFiller_nil : AreFiller [] := by
  intro part hp
  cases hp

theorem AreFiller.append_fillGap {gaps : List Token} (h : AreFiller gaps) (gap : Text) :
    AreFiller (gaps ++ fillGap gap) := by
  intro part hp
  rcases List.mem_append.mp hp with hp | hp
  · exact h part hp
  · obtain ⟨text, ht, rfl⟩ := mem_fillGap hp
    exact ⟨rfl, ht⟩

/-- Filler in a row is one token, unless there is none. -/
theorem AreFiller.condense_eq {gaps : List Token} (h : AreFiller gaps) :
    condense gaps = fillGap (gaps.flatMap Token.surface) := by
  by_cases hg : gaps = []
  · subst hg
    rfl
  · have hchain : gaps.IsChain fun a b => joins a b = true := by
      refine List.Pairwise.isChain (List.pairwise_of_forall_mem_list fun a ha b hb => ?_)
      simp [joins, (h a ha).1, (h b hb).1]
    have hany : gaps.any Token.isLexical = false := by
      simp only [List.any_eq_false, Bool.not_eq_true]
      exact fun part hp => (h part hp).1
    have htext : gaps.flatMap Token.surface ≠ [] := by
      obtain ⟨part, hp⟩ := List.exists_mem_of_ne_nil gaps hg
      exact fun he => (h part hp).2 (List.flatMap_eq_nil_iff.mp he part hp)
    rw [condense, List.splitBy_of_isChain hg hchain, fillGap, if_neg htext]
    simp [merge, hany]

/-- A lexical word ends the run before it, and the next one begins after it. -/
theorem condense_append_lexical (gaps : List Token) (word : Text) (later : List Token) :
    condense (gaps ++ .lexical word :: later) = condense gaps ++ .lexical word :: condense later := by
  have hbefore : (gaps ++ Token.lexical word :: later).splitBy joins =
      gaps.splitBy joins ++ (Token.lexical word :: later).splitBy joins :=
    List.splitBy_append_cons later (by simp [joins, Token.lexical])
  have hafter : ([Token.lexical word] ++ later).splitBy joins =
      [Token.lexical word].splitBy joins ++ later.splitBy joins :=
    List.splitBy_append (by simp [joins, Token.lexical])
  have hsingle : [Token.lexical word].splitBy joins = [[Token.lexical word]] := rfl
  have hword : merge [Token.lexical word] = .lexical word := by simp [merge, Token.lexical]
  rw [List.singleton_append, hsingle] at hafter
  rw [condense, hbefore, hafter]
  simp [condense, hword]

theorem filter_filler_cons (gap : Text) (later : List Token) :
    (Token.filler gap :: later).filter (fun part => !part.surface.isEmpty) =
      fillGap gap ++ later.filter fun part => !part.surface.isEmpty := by
  by_cases hg : gap = []
  · simp [fillGap, Token.filler, hg]
  · simp [fillGap, Token.filler, hg]

/-- Reading a layout from left to right gives one token for each run. The gaps are the parts that
have been read since the last lexical word, and their text is what waits to become filler. -/
theorem condense_append_parts (layout : Layout) {gaps : List Token} (h : AreFiller gaps) :
    condense (gaps ++ layout.parts.filter fun part => !part.surface.isEmpty) =
      layout.tokensFrom (gaps.flatMap Token.surface) := by
  induction layout generalizing gaps with
  | rest text =>
    rw [parts, filter_filler_cons, List.filter_nil, List.append_nil,
      (h.append_fillGap text).condense_eq]
    simp [tokensFrom]
  | next gap word later ih =>
    rw [parts, filter_filler_cons, tokensFrom, ← List.append_assoc]
    by_cases hw : word.isLexical = true
    · -- The gaps before the word are complete, and nothing waits after it.
      have hne : word ≠ [] := Text.ne_nil_of_isLexical hw
      have hlater := ih areFiller_nil
      rw [List.nil_append] at hlater
      rw [if_pos hw, if_pos hw, List.filter_cons_of_pos (by simpa [Token.lexical] using hne),
        condense_append_lexical, (h.append_fillGap gap).condense_eq]
      simp [hlater]
    · -- The word joins the gaps before it.
      rw [if_neg hw, if_neg hw, filter_filler_cons, ← List.append_assoc,
        ih ((h.append_fillGap gap).append_fillGap word)]
      simp

/-- The tokens of a layout are the ones that it should have. -/
theorem canonical_eq_tokens (layout : Layout) : layout.canonical = layout.tokens :=
  condense_append_parts layout areFiller_nil

/-! ## Layouts in which no word begins too early -/

instance decidableIsClear : (layout : Layout) → Decidable layout.IsClear
  | rest _ => isTrue trivial
  | next gap word later =>
    have := decidableIsClear later
    decidable_of_iff ((∀ b ∈ gap.tails, b ≠ [] → ∀ v ∈ word :: later.words,
        ¬v <+: b ++ word ++ later.text) ∧ later.IsClear) <| by
      refine and_congr_left fun _ => ⟨fun h a b hab hb => ?_, fun h b hb => ?_⟩
      · exact h b ((List.mem_tails _ _).mpr ⟨a, hab.symm⟩) hb
      · obtain ⟨a, hab⟩ := (List.mem_tails _ _).mp hb
        exact h a b hab.symm

/-- A text that is cut into words, with nothing between them. -/
def ofWords : List Text → Layout
  | [] => rest []
  | word :: words => next [] word (ofWords words)

@[simp] theorem text_ofWords (words : List Text) : (ofWords words).text = words.flatten := by
  induction words with
  | nil => rfl
  | cons word words ih => simp [ofWords, text, ih]

@[simp] theorem words_ofWords (words : List Text) : (ofWords words).words = words := by
  induction words with
  | nil => rfl
  | cons word words ih => simp [ofWords, Layout.words, ih]

theorem isClear_ofWords (words : List Text) : (ofWords words).IsClear := by
  induction words with
  | nil => trivial
  | cons word words ih =>
    refine ⟨fun a b hab hb => ?_, ih⟩
    exact absurd (List.append_eq_nil_iff.mp hab.symm).2 hb

end Layout

/-! ## Weaving -/

namespace Segmentation

theorem weave_of_isClear {layout : Layout} (hw : ∀ word ∈ layout.words, word ≠ [])
    (hc : layout.IsClear) : weave layout.text layout.words = layout.tokens := by
  rw [weave_eq_tokens, layout_of_forall_ne_nil hw, Layout.find_eq_self hc]

/-- A text that is cut into words comes apart where it was cut, but for words in a row that are
filler. -/
theorem weave_flatten {words : List Text} (hw : ∀ word ∈ words, word ≠ []) :
    weave words.flatten words = (Layout.ofWords words).canonical := by
  have h := weave_of_isClear (by simpa using hw) (Layout.isClear_ofWords words)
  rw [Layout.text_ofWords, Layout.words_ofWords] at h
  rw [h, Layout.canonical_eq_tokens]

/-- **Weaving recovers the layout.** When a chunk is taken apart into words that are not empty and
any text between them, and no word begins in a gap before its own place, then weaving the words into
the chunk gives exactly the tokens of this layout: one for every lexical word, and one for every
maximal run of gaps and other words between two of them. -/
theorem weave_eq_canonical {layout : Layout} (hw : ∀ word ∈ layout.words, word ≠ [])
    (hc : layout.IsClear) : weave layout.text layout.words = layout.canonical := by
  rw [weave_of_isClear hw hc, Layout.canonical_eq_tokens]

/-- With letters in the gaps, and a comma and a blank among the words. -/
theorem weave_eq_canonical_letters :
    let layout : Layout := .next ['x', '的'] ['好'] (.next [] ['，'] (.next ['y'] [' ']
      (.next ['z', '，'] ['世', '界'] (.rest ['好', '。']))))
    (∀ word ∈ layout.words, word ≠ []) ∧ layout.IsClear ∧
      layout.text = "x的好，y z，世界好。".toList ∧
        weave layout.text layout.words = [.filler "x的".toList, .lexical ['好'],
          .filler "，y z，".toList, .lexical ['世', '界'], .filler "好。".toList] := by
  intro layout
  have hw : ∀ word ∈ layout.words, word ≠ [] := by decide
  have hc : layout.IsClear := by decide
  exact ⟨hw, hc, rfl, (weave_eq_canonical hw hc).trans (by decide +kernel)⟩

end Segmentation

end Hanyu
