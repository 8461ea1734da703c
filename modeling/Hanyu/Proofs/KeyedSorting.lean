import Hanyu.Sorting
import Mathlib.Data.List.Sort

/-!
# Sorting by keys

Elements with equal keys come out of sorting in the order in which they went in. So lists that are
rearranged without changing the order of such elements are sorted alike.

* `OrdersBy`: a relation puts elements in order, and leaves those with equal keys as they are.
* `OrdersBy.filter_sortBy`: elements with equal keys keep their order.
* `Rearranged`: a list is another one in another order, in which elements with equal keys keep
  theirs. When these are equal themselves, every permutation is such a list (`Rearranged.of_perm`).
* `Rearranged.sortBy_eq`: it is sorted like the other one.
* `Rearranged.find?_eq`: and the first element with a property is the same one, when the property
  determines the key.
-/

namespace Hanyu

variable {α κ : Type}

/-! ## Orders -/

/-- A relation puts elements in order. Either of two may stand before the other exactly when they
have equal keys. -/
structure OrdersBy (key : α → κ) (before : α → α → Bool) : Prop where
  total : ∀ a b, before a b = true ∨ before b a = true
  trans : ∀ a b c, before a b = true → before b c = true → before a c = true
  tied_iff : ∀ a b, before a b = true ∧ before b a = true ↔ key a = key b

theorem notAfter_iff {a b : Text} : Text.notAfter a b = true ↔ ¬b < a := by
  simp [Text.notAfter]

/-- Texts are put in order, and so is what has texts for its keys. -/
theorem ordersBy_notAfter (key : α → Text) :
    OrdersBy key fun a b => Text.notAfter (key a) (key b) where
  total a b := by
    rw [notAfter_iff, notAfter_iff]
    exact List.le_total (key a) (key b)
  trans a b c := by
    rw [notAfter_iff, notAfter_iff, notAfter_iff]
    exact List.le_trans
  tied_iff a b := by
    rw [notAfter_iff, notAfter_iff]
    refine ⟨fun h => List.le_antisymm h.1 h.2, fun h => ?_⟩
    rw [h]
    exact ⟨List.lt_irrefl _, List.lt_irrefl _⟩

theorem sortBy_eq_insertionSort (before : α → α → Bool) (xs : List α) :
    sortBy before xs = xs.insertionSort fun a b => before a b = true := by
  have hinsert : ∀ a ys, insertBy before a ys =
      ys.orderedInsert (fun a b => before a b = true) a := by
    intro a ys
    induction ys with
    | nil => rfl
    | cons b ys ih => rw [insertBy, List.orderedInsert_cons, ih]
  induction xs with
  | nil => rfl
  | cons a xs ih =>
    rw [List.insertionSort_cons, ← ih, ← hinsert]
    rfl

section Sorted

variable {key : α → κ} {before : α → α → Bool}

theorem OrdersBy.pairwise_sortBy (ho : OrdersBy key before) (xs : List α) :
    (sortBy before xs).Pairwise fun a b => before a b = true := by
  have : Std.Total fun a b => before a b = true := ⟨ho.total⟩
  have : IsTrans α fun a b => before a b = true := ⟨ho.trans⟩
  rw [sortBy_eq_insertionSort]
  exact List.pairwise_insertionSort _ _

variable [DecidableEq κ]

/-- Elements with equal keys keep their order. -/
theorem OrdersBy.filter_sortBy (ho : OrdersBy key before) (xs : List α) (k : κ) :
    (sortBy before xs).filter (fun a => key a = k) = xs.filter fun a => key a = k := by
  have hties : (xs.filter fun a => key a = k).Pairwise fun a b => before a b = true := by
    refine List.pairwise_of_forall_mem_list fun a ha b hb => ?_
    have hka : key a = k := by simpa using List.of_mem_filter ha
    have hkb : key b = k := by simpa using List.of_mem_filter hb
    exact ((ho.tied_iff a b).mpr (hka.trans hkb.symm)).1
  have hsub : (xs.filter fun a => key a = k).Sublist (sortBy before xs) := by
    rw [sortBy_eq_insertionSort]
    exact List.sublist_insertionSort hties List.filter_sublist
  have hsub' := hsub.filter fun a => key a = k
  rw [List.filter_filter] at hsub'
  simp only [Bool.and_self] at hsub'
  exact (hsub'.eq_of_length ((sortBy_perm before xs).filter _).length_eq.symm).symm

/-- Two lists in order are equal when they have the same elements for every key, in the same
order. -/
theorem OrdersBy.eq_of_filter_eq (ho : OrdersBy key before) {xs ys : List α}
    (hx : xs.Pairwise fun a b => before a b = true) (hy : ys.Pairwise fun a b => before a b = true)
    (h : ∀ k, xs.filter (fun a => key a = k) = ys.filter fun a => key a = k) : xs = ys := by
  induction xs generalizing ys with
  | nil =>
    cases ys with
    | nil => rfl
    | cons b ys => simpa using h (key b)
  | cons a xs ih =>
    cases ys with
    | nil => simpa using h (key a)
    | cons b ys =>
      -- The first elements are found again in the other list, so that neither comes later.
      have hle : ∀ {a b : α} {xs ys : List α}, (b :: ys).Pairwise (fun a b => before a b = true) →
          (a :: xs).filter (fun c => key c = key a) = (b :: ys).filter (fun c => key c = key a) →
          before b a = true := by
        intro a b xs ys hys hf
        have hm : a ∈ (b :: ys).filter fun c => key c = key a := by simp [← hf]
        rcases List.mem_cons.mp (List.mem_of_mem_filter hm) with rfl | hm
        · exact ((ho.tied_iff a a).mpr rfl).1
        · exact List.rel_of_pairwise_cons hys hm
      have hkey : key a = key b :=
        (ho.tied_iff a b).mp ⟨hle hx (h (key b)).symm, hle hy (h (key a))⟩
      have hfirst := h (key a)
      rw [List.filter_cons_of_pos (by simp), List.filter_cons_of_pos (by simp [hkey])] at hfirst
      obtain ⟨rfl, -⟩ := List.cons.inj hfirst
      refine congrArg (a :: ·) (ih hx.tail hy.tail fun k => ?_)
      have hk := h k
      by_cases hak : key a = k
      · simpa [List.filter_cons, hak] using hk
      · simpa [List.filter_cons, hak] using hk

end Sorted

/-! ## Rearranged lists -/

/-- The one list is the other one in another order, in which elements with equal keys keep theirs. -/
structure Rearranged [DecidableEq κ] (key : α → κ) (xs ys : List α) : Prop where
  perm : xs.Perm ys
  filter_eq : ∀ k, xs.filter (fun a => key a = k) = ys.filter fun a => key a = k

namespace Rearranged

variable [DecidableEq κ] {key : α → κ} {xs ys : List α}

/-- Where elements with equal keys are equal, their order does not matter. -/
theorem of_perm (h : xs.Perm ys) (hkey : ∀ a ∈ xs, ∀ b ∈ xs, key a = key b → a = b) :
    Rearranged key xs ys where
  perm := h
  filter_eq k := by
    -- Elements of one key are in order however they stand.
    have hany : ∀ zs : List α, zs.Pairwise fun _ _ => True :=
      fun _ => List.pairwise_of_forall fun _ _ => trivial
    refine List.Perm.eq_of_pairwise (fun a b ha hb _ _ => ?_) (hany _) (hany _) (h.filter _)
    obtain ⟨ha, hak⟩ := List.mem_filter.mp ha
    obtain ⟨hb, hbk⟩ := List.mem_filter.mp hb
    refine hkey a ha b (h.mem_iff.mpr hb) ?_
    rw [of_decide_eq_true hak, of_decide_eq_true hbk]

theorem sortBy_eq (h : Rearranged key xs ys) {before : α → α → Bool} (ho : OrdersBy key before) :
    sortBy before xs = sortBy before ys := by
  refine ho.eq_of_filter_eq (ho.pairwise_sortBy xs) (ho.pairwise_sortBy ys) fun k => ?_
  rw [ho.filter_sortBy, ho.filter_sortBy, h.filter_eq]

/-- A property that determines the key. -/
theorem filter_eq_of_key (h : Rearranged key xs ys) {p : α → Bool} {k : κ}
    (hp : ∀ a, p a = true → key a = k) : xs.filter p = ys.filter p := by
  have hfilter : ∀ zs : List α, zs.filter p = (zs.filter fun a => key a = k).filter p := by
    intro zs
    rw [List.filter_filter]
    refine List.filter_congr fun a _ => ?_
    by_cases ha : p a = true
    · simp [ha, hp a ha]
    · simp [ha]
  rw [hfilter xs, hfilter ys, h.filter_eq]

theorem find?_eq (h : Rearranged key xs ys) {p : α → Bool} {k : κ}
    (hp : ∀ a, p a = true → key a = k) : xs.find? p = ys.find? p := by
  rw [← List.head?_filter, ← List.head?_filter, h.filter_eq_of_key hp]

end Rearranged

end Hanyu
