/-!
# Sets of characters given by ranges of code points

Most character properties are unions of a few hundred ranges. `CodeRanges.contains` looks a
character up in such a union.

* `contains_eq_true_iff`: a character is found exactly when one of the ranges spans its code point.
-/

namespace Hanyu.Unicode

/-- A union of closed ranges of code points, each given by its first and its last code point. -/
abbrev CodeRanges := List (Nat × Nat)

/-- Whether the code point of a character lies in one of the ranges. -/
def CodeRanges.contains (ranges : CodeRanges) (c : Char) : Bool :=
  ranges.any fun range => Nat.ble range.1 c.toNat && Nat.ble c.toNat range.2

theorem CodeRanges.contains_eq_true_iff {ranges : CodeRanges} {c : Char} :
    ranges.contains c = true ↔ ∃ range ∈ ranges, range.1 ≤ c.toNat ∧ c.toNat ≤ range.2 := by
  simp [CodeRanges.contains]

end Hanyu.Unicode
