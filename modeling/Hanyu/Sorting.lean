import Hanyu.Text

/-!
# Sorting

Insertion sort by a relation that says which of two elements may stand before the other. Elements
that may stand either way keep their order.

* `sortBy_perm`: sorting neither adds nor loses an element.
* `mem_sortBy`: a sorted list has the same elements.
* `mem_dropRepeats`: dropping repeats keeps every element.
-/

namespace Hanyu

/-- An element put before the first one it may stand before. -/
def insertBy {α : Type} (before : α → α → Bool) (a : α) : List α → List α
  | [] => [a]
  | b :: rest => if before a b then a :: b :: rest else b :: insertBy before a rest

/-- The elements in an order in which each may stand before the next. -/
def sortBy {α : Type} (before : α → α → Bool) (xs : List α) : List α :=
  xs.foldr (insertBy before) []

theorem insertBy_perm {α : Type} (before : α → α → Bool) (a : α) (xs : List α) :
    (insertBy before a xs).Perm (a :: xs) := by
  induction xs with
  | nil => exact List.Perm.refl _
  | cons b rest ih =>
    rw [insertBy]
    split
    · exact List.Perm.refl _
    · exact (ih.cons b).trans (List.Perm.swap a b rest)

theorem sortBy_perm {α : Type} (before : α → α → Bool) (xs : List α) :
    (sortBy before xs).Perm xs := by
  induction xs with
  | nil => exact List.Perm.refl _
  | cons a rest ih => exact (insertBy_perm before a _).trans (ih.cons a)

theorem mem_sortBy {α : Type} {before : α → α → Bool} {xs : List α} {a : α} :
    a ∈ sortBy before xs ↔ a ∈ xs :=
  (sortBy_perm before xs).mem_iff

/-- The list without the elements that equal the one before them. -/
def dropRepeats {α : Type} [DecidableEq α] : List α → List α
  | [] => []
  | [a] => [a]
  | a :: b :: rest => if a = b then dropRepeats (b :: rest) else a :: dropRepeats (b :: rest)

theorem mem_dropRepeats {α : Type} [DecidableEq α] {xs : List α} {a : α} :
    a ∈ dropRepeats xs ↔ a ∈ xs := by
  fun_induction dropRepeats xs <;> simp_all

/-- Whether a text stands before another in the order of code points, or is the same. -/
def Text.notAfter (a b : Text) : Bool := !decide (b < a)

end Hanyu
