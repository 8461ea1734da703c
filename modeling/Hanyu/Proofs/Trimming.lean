import Hanyu.Text
import Mathlib.Data.List.TakeWhile

/-!
# Trimmed texts

A trimmed text is a part of the text that neither begins nor ends with a blank.

* `Text.head?_trim`, `Text.getLast?_trim`: what a trimmed text begins and ends with.
* `Text.trim_eq_self`: a text without blanks at its ends is trimmed.
* `Text.length_trim_lt`: a text with a blank at its end is not.
* `Text.trimEnd_append`: the end of two texts is trimmed in the second one, unless this is blank.
-/

namespace Hanyu.Text

variable {text : Text} {c : Char}

theorem trimEnd_prefix_self (text : Text) : text.trimEnd <+: text := by
  have h : (text.reverse.dropWhile Unicode.isBlank).reverse <+: text.reverse.reverse :=
    List.reverse_prefix.mpr (List.dropWhile_suffix _)
  rwa [List.reverse_reverse] at h

theorem trimEnd_of_isBlank (h : text.isBlank = true) : text.trimEnd = [] := by
  rw [isBlank, List.all_eq_true] at h
  rw [trimEnd, List.dropWhile_eq_nil_iff.mpr fun c hc => h c (List.mem_reverse.mp hc)]
  rfl

theorem trimEnd_append (text later : Text) :
    (text ++ later).trimEnd = if later.isBlank then text.trimEnd else text ++ later.trimEnd := by
  have hblank : (later.reverse.dropWhile Unicode.isBlank).isEmpty = later.isBlank := by
    rw [Bool.eq_iff_iff, List.isEmpty_iff, List.dropWhile_eq_nil_iff, isBlank, List.all_eq_true]
    simp only [List.mem_reverse]
  rw [trimEnd, List.reverse_append, List.dropWhile_append, hblank]
  split
  · rfl
  · rw [List.reverse_append, List.reverse_reverse]
    rfl

theorem trim_sublist (text : Text) : text.trim.Sublist text :=
  (trimEnd_prefix_self _).sublist.trans (List.dropWhile_sublist _)

theorem head?_dropWhile (h : (text.dropWhile Unicode.isBlank).head? = some c) :
    Unicode.isBlank c = false := by
  have hnot := List.head?_dropWhile_not Unicode.isBlank text
  rw [h] at hnot
  simpa using hnot

theorem dropWhile_eq_self (h : ∀ c, text.head? = some c → Unicode.isBlank c = false) :
    text.dropWhile Unicode.isBlank = text := by
  cases text with
  | nil => rfl
  | cons c text => rw [List.dropWhile_cons_of_neg (by simp [h c rfl])]

/-- A trimmed text does not begin with a blank. -/
theorem head?_trim (h : text.trim.head? = some c) : Unicode.isBlank c = false := by
  obtain ⟨after, ha⟩ := trimEnd_prefix_self (text.dropWhile Unicode.isBlank)
  have hhead : (text.dropWhile Unicode.isBlank).head? = some c := by
    rw [← ha, List.head?_append, show (trimEnd _).head? = some c from h, Option.some_or]
  exact head?_dropWhile hhead

/-- A trimmed text does not end with a blank. -/
theorem getLast?_trim (h : text.trim.getLast? = some c) : Unicode.isBlank c = false := by
  rw [trim, trimEnd, List.getLast?_reverse] at h
  exact head?_dropWhile h

/-- A text without blanks at its ends is trimmed. -/
theorem trim_eq_self (hh : ∀ c, text.head? = some c → Unicode.isBlank c = false)
    (hl : ∀ c, text.getLast? = some c → Unicode.isBlank c = false) : text.trim = text := by
  rw [trim, dropWhile_eq_self hh, trimEnd, dropWhile_eq_self, List.reverse_reverse]
  intro c hc
  exact hl c (by rwa [List.head?_reverse] at hc)

/-- A text with a blank at its end is longer than the trimmed one. -/
theorem length_trim_lt (h : text.getLast? = some c) (hb : Unicode.isBlank c = true) :
    text.trim.length < text.length := by
  refine Nat.lt_of_le_of_ne (trim_sublist text).length_le fun hlength => ?_
  rw [← (trim_sublist text).eq_of_length hlength] at h
  rw [getLast?_trim h] at hb
  cases hb

end Hanyu.Text
