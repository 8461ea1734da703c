import Hanyu.Proofs.Weaving
import Mathlib.Data.List.Infix

/-!
# Words that are not there

A segmenter may report words that the chunk does not hold. They take their turn with the others:
weaving looks for every word at the cursor, and passes over the words before one that it finds there.
Still they make no difference.

* `matchHere?_filter`: which word is found at the cursor does not depend on absent ones.
* `Layout.find_filter`: so weaving finds the same layout without them. The words that are not in a
  text are not in the rest of it either, which carries this from one word to the next.
* `weave_of_padded`: absent words may be put in anywhere.
-/

namespace Hanyu

namespace Segmentation

/-! ## Leaving out absent words -/

/-- Which word is found at the cursor does not depend on words that do not occur in the text. -/
theorem matchHere?_filter {text : Text} {p : Text → Bool}
    (h : ∀ word, p word = false → ¬word <:+: text) (words : List Text) :
    matchHere? text (words.filter p) =
      (matchHere? text words).map fun found => { found with later := found.later.filter p } := by
  induction words with
  | nil => rfl
  | cons word later ih =>
    cases hp : p word with
    | true =>
      rw [List.filter_cons_of_pos hp, matchHere?, matchHere?, ih]
      cases text.rest? word <;> rfl
    | false =>
      have hr : text.rest? word = none :=
        Text.rest?_eq_none_iff.mpr fun hw => h word hp hw.isInfix
      rw [List.filter_cons_of_neg (by simp [hp]), ih, matchHere?, hr]

/-- A layout begins with the word at the cursor. -/
theorem find_of_matchHere? {text : Text} {words : List Text} {found : Match}
    (h : matchHere? text words = some found) :
    Layout.find text words = .next found.gap found.word (.find found.rest found.later) := by
  cases words with
  | nil => cases h
  | cons word later => exact Layout.find_cons_of_some (by rw [nextMatch?, h])

theorem nextMatch?_eq_none {text word : Text} {later : List Text}
    (h : nextMatch? text word later = none) :
    matchHere? text (word :: later) = none ∧ text.cut? word = none := by
  unfold nextMatch? at h
  split at h
  · cases h
  · rename_i hm
    exact ⟨hm, Option.map_eq_none_iff.mp h⟩

theorem isInfix_of_cut? {text word gap rest : Text} (h : text.cut? word = some (gap, rest)) :
    word <:+: text :=
  ⟨gap, rest, (Text.cut?_eq_some h).symm⟩

end Segmentation

namespace Layout

open Segmentation

/-- Weaving finds the same layout when some words are left out that do not occur in the text. -/
theorem find_filter {text : Text} {p : Text → Bool} (h : ∀ word, p word = false → ¬word <:+: text)
    (words : List Text) : find text (words.filter p) = find text words := by
  fun_induction find text words with
  | case1 text => rw [List.filter_nil, find_nil]
  | case2 text word later hn ih =>
    cases hp : p word with
    | true =>
      obtain ⟨hm, hc⟩ := nextMatch?_eq_none hn
      have hfilter := matchHere?_filter h (word :: later)
      rw [hm, List.filter_cons_of_pos hp] at hfilter
      rw [List.filter_cons_of_pos hp, find_of_cut?_eq_none hfilter hc, ih h]
    | false => rw [List.filter_cons_of_neg (by simp [hp]), ih h]
  | case3 text word later found hn hlt ih =>
    have hrest : ∀ word, p word = false → ¬word <:+: found.rest := fun word hp hw =>
      h word hp (hw.trans ⟨found.gap ++ found.word, [], by simp [← append_of_nextMatch? hn]⟩)
    have hfilter := matchHere?_filter h (word :: later)
    rcases nextMatch?_eq_some hn with hm | ⟨hm, hword, hlater, hc⟩
    · -- The word found is at the cursor, whatever stands before it in the list.
      rw [hm] at hfilter
      rw [find_of_matchHere? hfilter, ih hrest]
    · -- The first word is found further on, so it is not one of those left out.
      have hp : p word = true := by
        by_contra hp
        exact h word (by simpa using hp) (isInfix_of_cut? hc)
      rw [hm, List.filter_cons_of_pos hp] at hfilter
      rw [List.filter_cons_of_pos hp, find_of_cut? hfilter hc, ← hlater, ih hrest, hword]

end Layout

/-! ## Putting absent words in -/

namespace Segmentation

/-- A word that weaving cannot find: it is empty, or does not occur in the chunk. -/
def IsAbsent (chunk word : Text) : Prop := word = [] ∨ ¬word <:+: chunk

instance (chunk : Text) : DecidablePred (IsAbsent chunk) := fun word =>
  inferInstanceAs (Decidable (word = [] ∨ ¬word <:+: chunk))

/-- The second list has the words of the first one in their order, and absent words anywhere
between them. -/
inductive Padded (chunk : Text) : List Text → List Text → Prop
  | nil : Padded chunk [] []
  | keep (word : Text) {words padded : List Text} (h : Padded chunk words padded) :
      Padded chunk (word :: words) (word :: padded)
  | insert {word : Text} {words padded : List Text} (ha : IsAbsent chunk word)
      (h : Padded chunk words padded) : Padded chunk words (word :: padded)

/-- Weaving goes by the words that are there. -/
theorem weave_filter (chunk : Text) (words : List Text) :
    weave chunk (words.filter fun word => !decide (IsAbsent chunk word)) = weave chunk words := by
  have hsplit : (words.filter fun word => !decide (IsAbsent chunk word)).filter
        (fun word => !word.isEmpty) =
      (words.filter fun word => !word.isEmpty).filter fun word => decide (word <:+: chunk) := by
    rw [List.filter_filter, List.filter_filter]
    refine List.filter_congr fun word _ => ?_
    cases word <;> simp [IsAbsent]
  rw [weave_eq_tokens, weave_eq_tokens, layout, layout, hsplit,
    Layout.find_filter fun word hp => by simpa using hp]

theorem Padded.filter_eq {chunk : Text} {words padded : List Text} (h : Padded chunk words padded) :
    (padded.filter fun word => !decide (IsAbsent chunk word)) =
      words.filter fun word => !decide (IsAbsent chunk word) := by
  induction h with
  | nil => rfl
  | keep word h ih => rw [List.filter_cons, List.filter_cons, ih]
  | insert ha h ih => rw [List.filter_cons_of_neg (by simpa using ha), ih]

/-- **Words that are not there make no difference.** Any number of words that are empty or do not
occur in a chunk can be put anywhere among its words, and weaving gives the same tokens. -/
theorem weave_of_padded {chunk : Text} {words padded : List Text} (h : Padded chunk words padded) :
    weave chunk padded = weave chunk words := by
  rw [← weave_filter chunk padded, h.filter_eq, weave_filter]

/-- A blank that is reported too early is passed over, with and without absent words around it. -/
theorem weave_of_padded_blank :
    let words := ["你好".toList, [' '], "世界".toList]
    let padded := ["地球".toList, "你好".toList, [], [' '], "界 世".toList, "世界".toList, "好 ".toList]
    Padded "你好世界 ".toList words padded ∧
      weave "你好世界 ".toList padded = weave "你好世界 ".toList words ∧
      weave "你好世界 ".toList words =
        [.lexical "你好".toList, .lexical "世界".toList, .filler [' ']] := by
  intro words padded
  have hp : Padded "你好世界 ".toList words padded :=
    .insert (by decide +kernel) (.keep _ (.insert (by decide +kernel) (.keep _
      (.insert (by decide +kernel) (.keep _ (.insert (by decide +kernel) .nil))))))
  exact ⟨hp, weave_of_padded hp, by decide +kernel⟩

end Segmentation

end Hanyu
