/-!
# Ledgers of engines

A ledger lists the calls that engines got, the latest one first. In a ledger in order every engine
is made once and loaded at most once, only engines that are loaded segment and are unloaded, and
there are never more loaded engines than there are places for them.

* `IsOrdered`: the ledgers in order, call by call.
* `IsOrdered.perm`: the engines that were loaded are those that were unloaded and those that are
  still open.
* `IsBalanced`: what this means for users; `IsOrdered.isBalanced` that it holds.
-/

namespace Hanyu

/-- A call that an engine got. Engines are told apart by numbers. -/
inductive EngineCall where
  | create (engine : Nat)
  | load (engine : Nat) (succeeded : Bool)
  | segment (engine : Nat)
  | unload (engine : Nat)
deriving DecidableEq, Repr

/-- The calls that engines got, the latest one first. -/
abbrev Ledger := List EngineCall

/-- The engine that was called. -/
def EngineCall.engine : EngineCall → Nat
  | create engine => engine
  | load engine _ => engine
  | segment engine => engine
  | unload engine => engine

namespace Ledger

/-- The engines that were loaded with success. -/
def loaded : Ledger → List Nat
  | [] => []
  | .load engine true :: past => engine :: loaded past
  | _ :: past => loaded past

/-- The engines that were unloaded. -/
def unloaded : Ledger → List Nat
  | [] => []
  | .unload engine :: past => engine :: unloaded past
  | _ :: past => unloaded past

/-- The engines that are loaded and have not been unloaded. -/
def opened : Ledger → List Nat
  | [] => []
  | .load engine true :: past => engine :: opened past
  | .unload engine :: past => (opened past).erase engine
  | _ :: past => opened past

/-- A number that no engine in the ledger has. -/
def next (calls : Ledger) : Nat := calls.foldr (fun call least => max (call.engine + 1) least) 0

/-- Every call is in order after those before it, with so many places for loaded engines. -/
inductive IsOrdered (places : Nat) : Ledger → Prop where
  | nil : IsOrdered places []
  | create {past : Ledger} {engine : Nat} (h : IsOrdered places past)
    (hn : ∀ call ∈ past, call.engine ≠ engine) : IsOrdered places (.create engine :: past)
  | refused {past : Ledger} {engine : Nat} (h : IsOrdered places past) :
    IsOrdered places (.load engine false :: past)
  | load {past : Ledger} {engine : Nat} (h : IsOrdered places past)
    (hn : engine ∉ loaded past) (hp : (opened past).length < places) :
    IsOrdered places (.load engine true :: past)
  | segment {past : Ledger} {engine : Nat} (h : IsOrdered places past)
    (ho : engine ∈ opened past) : IsOrdered places (.segment engine :: past)
  | unload {past : Ledger} {engine : Nat} (h : IsOrdered places past)
    (ho : engine ∈ opened past) : IsOrdered places (.unload engine :: past)

variable {places : Nat} {calls past : Ledger} {engine : Nat}

theorem engine_lt_next {call : EngineCall} (h : call ∈ calls) : call.engine < next calls := by
  induction calls with
  | nil => cases h
  | cons first rest ih =>
    have hnext : next (first :: rest) = max (first.engine + 1) (next rest) := rfl
    rcases List.mem_cons.mp h with rfl | h
    · omega
    · have hrest := ih h
      omega

/-- An engine that got no call has not been loaded. -/
theorem not_mem_loaded (h : ∀ call ∈ past, call.engine ≠ engine) : engine ∉ loaded past := by
  induction past with
  | nil => exact List.not_mem_nil
  | cons call past ih =>
    obtain ⟨hcall, hpast⟩ := List.forall_mem_cons.mp h
    unfold loaded
    split
    · rename_i heq
      cases heq
    · rename_i first rest heq
      cases heq
      exact List.not_mem_cons_of_ne_of_not_mem (Ne.symm hcall) (ih hpast)
    · rename_i heq
      cases heq
      exact ih hpast

/-- The engines that were loaded are those that were unloaded and those that are still open. -/
theorem IsOrdered.perm (h : IsOrdered places calls) :
    (loaded calls).Perm (unloaded calls ++ opened calls) := by
  induction h with
  | nil => exact .refl _
  | create _ _ ih => exact ih
  | refused _ ih => exact ih
  | load _ _ _ ih => exact (ih.cons _).trans List.perm_middle.symm
  | segment _ _ ih => exact ih
  | unload _ ho ih =>
    rename_i past engine _
    have hopen : (opened past).Perm (engine :: (opened past).erase engine) :=
      List.perm_cons_erase ho
    exact (ih.trans (hopen.append_left _)).trans List.perm_middle

/-- No engine is loaded twice. -/
theorem IsOrdered.nodup_loaded (h : IsOrdered places calls) : (loaded calls).Nodup := by
  induction h with
  | nil => exact List.nodup_nil
  | create _ _ ih => exact ih
  | refused _ ih => exact ih
  | load _ hn _ ih => exact List.nodup_cons.mpr ⟨hn, ih⟩
  | segment _ _ ih => exact ih
  | unload _ _ ih => exact ih

/-- There are never more loaded engines than places. -/
theorem IsOrdered.length_opened_le (h : IsOrdered places calls) :
    (opened calls).length ≤ places := by
  induction h with
  | nil => exact Nat.zero_le _
  | create _ _ ih => exact ih
  | refused _ ih => exact ih
  | load _ _ hp _ => exact hp
  | segment _ _ ih => exact ih
  | unload _ _ ih => exact Nat.le_trans (List.length_erase_le) ih

theorem IsOrdered.tail {call : EngineCall} (h : IsOrdered places (call :: past)) :
    IsOrdered places past := by
  cases h <;> assumption

/-- A ledger in order has been in order all the time. -/
theorem IsOrdered.of_suffix (h : IsOrdered places calls) (hs : past <:+ calls) :
    IsOrdered places past := by
  obtain ⟨later, rfl⟩ := hs
  induction later with
  | nil => exact h
  | cons call later ih => exact ih h.tail

/-- The books balance while some engines are held: what users may rely on. -/
structure IsBalanced (calls : Ledger) (held : List Nat) : Prop where
  /-- The engines that are held are those that are loaded and have not been unloaded. -/
  opened : (opened calls).Perm held
  /-- Besides them, exactly the engines that were loaded have been unloaded. -/
  loaded : (loaded calls).Perm (unloaded calls ++ held)
  /-- No engine is loaded or unloaded twice. -/
  once : (Ledger.loaded calls).Nodup ∧ (unloaded calls).Nodup
  /-- At every moment, only an engine that is loaded and has not been unloaded segments. -/
  segment : ∀ engine past, .segment engine :: past <:+ calls → engine ∈ Ledger.opened past
  /-- At every moment, only an engine that is loaded and has not been unloaded is unloaded. -/
  unload : ∀ engine past, .unload engine :: past <:+ calls → engine ∈ Ledger.opened past

theorem IsOrdered.isBalanced (h : IsOrdered places calls) {held : List Nat}
    (hh : (Ledger.opened calls).Perm held) : IsBalanced calls held where
  opened := hh
  loaded := h.perm.trans (hh.append_left _)
  once := ⟨h.nodup_loaded, (List.nodup_append.mp (h.perm.nodup_iff.mp h.nodup_loaded)).1⟩
  segment engine past hs := by
    cases h.of_suffix hs with
    | segment _ ho => exact ho
  unload engine past hs := by
    cases h.of_suffix hs with
    | unload _ ho => exact ho

end Ledger

end Hanyu
