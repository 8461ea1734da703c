import Hanyu.Proofs.Holdings

/-!
# Families of handles

The copies of one original watch one signal. They are a family, and whoever cancels in it stops all
of it. A deadline is no matter of the family: it belongs to the copy to which it is given, and to
the copies that are made of this one later.

* `Move.original?`, `Move.carried?`: from which original the handle of a holder comes, and which
  deadline it carries, by the moves alone.
* `Holdings.original?_eq`, `Holdings.carried?_eq`: signals tell originals, and the deadlines of
  handles are those that are carried.
* `Holdings.reason?_eq_requested_iff`, `Holdings.reason?_eq_deadlineExceeded_iff`: who reports what.
* `Holdings.AlikeFor`: holdings that one holder cannot tell apart. Moves do not change this
  (`Holdings.AlikeFor.apply`), and a deadline of somebody else makes no difference
  (`Holdings.alikeFor_limit`).
* `reportsByFamily`: all of this together.
-/

namespace Hanyu

variable {σ : Type}

/-! ## Originals and deadlines -/

namespace Move

/-- The number of the move that has made the original from which the handle of a holder comes, by
copies and copies of copies. -/
def original? : List (Move σ) → Holder → Option Nat
  | [], _ => none
  | move :: earlier, holder =>
    match move.source? (census earlier) holder with
    | none => some earlier.length
    | some source => original? earlier source

/-- The deadline that the handle of a holder carries: the last one that was given to it, or before
it was copied to the handle of which it is a copy. -/
def carried? (now : Instant) : List (Move σ) → Holder → Option Instant
  | [], _ => none
  | move :: earlier, holder =>
    (move.given? (clock now earlier) holder).or
      ((move.source? (census earlier) holder).bind (carried? now earlier))

/-- Somebody has cancelled whose handle came from the original with this number. -/
def IsCancelled (moves : List (Move σ)) (original : Nat) : Prop :=
  ∃ later holder earlier, moves = later ++ .cancel holder :: earlier ∧
    original? earlier holder = some original

/-- The numbers of the moves that have made an original, in their order. -/
def originals : List (Move σ) → List Nat
  | [] => []
  | move :: earlier => originals earlier ++ if move.isOriginal then [earlier.length] else []

variable {moves later earlier : List (Move σ)} {holder : Holder}

theorem lt_of_mem_originals {number : Nat} (h : number ∈ originals moves) :
    number < moves.length := by
  induction moves with
  | nil => cases h
  | cons move earlier ih =>
    rw [originals, List.mem_append] at h
    rcases h with h | h
    · exact Nat.lt_succ_of_lt (ih h)
    · split at h
      · rw [List.mem_singleton.mp h]
        exact Nat.lt_succ_self _
      · cases h

theorem nodup_originals (moves : List (Move σ)) : (originals moves).Nodup := by
  induction moves with
  | nil => exact .nil
  | cons move earlier ih =>
    rw [originals]
    split
    · refine List.nodup_append.mpr ⟨ih, by simp, fun number hn last hlast => ?_⟩
      rw [List.mem_singleton.mp hlast]
      exact Nat.ne_of_lt (lt_of_mem_originals hn)
    · rwa [List.append_nil]

theorem originals_prefix (h : earlier <:+ moves) : originals earlier <+: originals moves := by
  obtain ⟨later, rfl⟩ := h
  induction later with
  | nil => exact List.prefix_rfl
  | cons move later ih => exact ih.trans (List.prefix_append _ _)

/-- Who is there keeps coming from the same original, unless it is put under another handle. -/
theorem original?_append (hm : (census earlier).Has holder)
    (hr : ∀ move ∈ later, ¬move.Replaces holder) :
    original? (later ++ earlier) holder = original? earlier holder := by
  induction later with
  | nil => rfl
  | cons move later ih =>
    obtain ⟨hmove, hlater⟩ := List.forall_mem_cons.mp hr
    rw [List.cons_append, original?, source?_of_has (has_census_append hm later) hmove]
    exact ih hlater

theorem IsCancelled.append {original : Nat} (h : IsCancelled earlier original)
    (later : List (Move σ)) : IsCancelled (later ++ earlier) original := by
  obtain ⟨between, holder, before, rfl, ho⟩ := h
  exact ⟨later ++ between, holder, before, (List.append_assoc _ _ _).symm, ho⟩

end Move

namespace Holdings

open Move (AreSound originals)

variable {now : Instant} {notes : σ} {moves later earlier : List (Move σ)}
  {holder other : Holder} {handle old : Cancellation}

theorem length_originals (now : Instant) (notes : σ) (moves : List (Move σ)) :
    (originals moves).length = (after now notes moves).session.signals.made := by
  induction moves with
  | nil => rfl
  | cons move earlier ih =>
    rw [originals, after, (now_made_apply _ move).2, List.length_append, ih]
    cases move.isOriginal <;> rfl

/-- Nobody has a handle on a signal that has not been made. -/
theorem index_lt_length_originals (h : AreSound moves)
    (hh : (after now notes moves).held? holder = some handle) :
    handle.signal.index < (originals moves).length := by
  induction moves generalizing holder handle with
  | nil => cases holder <;> cases hh
  | cons move earlier ih =>
    rw [held?_after_cons h] at hh
    cases hs : move.source? (Move.census earlier) holder with
    | none =>
      rw [hs] at hh
      obtain rfl := Option.some.inj hh
      simp [originals, Move.isOriginal_of_source? hs, length_originals now notes]
    | some source =>
      simp only [hs] at hh
      obtain ⟨old, hold, rfl⟩ := Option.map_eq_some_iff.mp hh
      have hlt : old.signal.index < (originals earlier).length := ih h.2 hold
      rw [originals, List.length_append]
      exact Nat.lt_add_right _ hlt

/-- The signal of a handle tells from which original it comes. -/
theorem original?_eq (now : Instant) (notes : σ) (h : AreSound moves) (holder : Holder) :
    Move.original? moves holder = ((after now notes moves).held? holder).bind fun handle =>
      (originals moves)[handle.signal.index]? := by
  induction moves generalizing holder with
  | nil => cases holder <;> rfl
  | cons move earlier ih =>
    rw [held?_after_cons h, Move.original?]
    cases hs : move.source? (Move.census earlier) holder with
    | none => simp [originals, Move.isOriginal_of_source? hs, ← length_originals now notes]
    | some source =>
      simp only [ih h.2]
      cases hh : (after now notes earlier).held? source with
      | none => rfl
      | some handle =>
        -- A new signal comes after the one of this handle.
        have hlt := index_lt_length_originals h.2 hh
        simp [originals, List.getElem?_append_left hlt]

/-- The deadline of a handle is the one that it carries. -/
theorem carried?_eq (notes : σ) (h : AreSound moves) (holder : Holder) :
    Move.carried? now moves holder = ((after now notes moves).held? holder).bind (·.deadline) := by
  induction moves generalizing holder with
  | nil => cases holder <;> rfl
  | cons move earlier ih =>
    rw [held?_after_cons h, Move.carried?]
    cases hs : move.source? (Move.census earlier) holder with
    | none => simp [Move.given?_of_source? hs]
    | some source =>
      rw [Option.bind_some, ih h.2]
      cases hh : (after now notes earlier).held? source with
      | some handle => simp [hh, Cancellation.given]
      | none =>
        cases hg : move.given? (Move.clock now earlier) holder with
        | none => simp [hh]
        | some deadline =>
          -- Who is given a deadline is there.
          obtain ⟨hn, hself⟩ := Move.of_given? hg (Move.census earlier)
          obtain rfl : holder = source := Option.some.inj (hself.symm.trans hs)
          have hc := census_after now notes h.2
          obtain ⟨handle, hsome⟩ := has_iff.mp (hc ▸ h.1 holder hn)
          rw [hsome] at hh
          cases hh

theorem exists_original?_iff (now : Instant) (notes : σ) (h : AreSound moves) :
    (∃ original, Move.original? moves holder = some original) ↔
      ∃ handle, (after now notes moves).held? holder = some handle := by
  rw [original?_eq now notes h]
  constructor
  · rintro ⟨original, ho⟩
    obtain ⟨handle, hh, -⟩ := Option.bind_eq_some_iff.mp ho
    exact ⟨handle, hh⟩
  · rintro ⟨handle, hh⟩
    rw [hh, Option.bind_some]
    exact ⟨_, List.getElem?_eq_getElem (index_lt_length_originals h hh)⟩

/-- Two handles are on one signal when they come from one original, also at different times. -/
theorem signal_eq_iff (h : AreSound moves) (he : earlier <:+ moves)
    (hold : (after now notes earlier).held? other = some old)
    (hh : (after now notes moves).held? holder = some handle) :
    old.signal = handle.signal ↔ Move.original? earlier other = Move.original? moves holder := by
  have hlt := index_lt_length_originals (h.of_suffix he) hold
  have hprefix := Move.originals_prefix he
  have hsame : (originals earlier)[old.signal.index]? = (originals moves)[old.signal.index]? := by
    obtain ⟨rest, hr⟩ := hprefix
    rw [← hr, List.getElem?_append_left hlt]
  rw [original?_eq now notes (h.of_suffix he), original?_eq now notes h, hold, hh,
    Option.bind_some, Option.bind_some, hsame,
    List.getElem?_inj (Nat.lt_of_lt_of_le hlt hprefix.length_le) (Move.nodup_originals _)]
  exact ⟨congrArg Signal.index, congrArg Signal.mk⟩

/-! ## Reports -/

/-- A request is reported in the families in which somebody has cancelled. -/
theorem reason?_eq_requested_iff (h : AreSound moves) :
    (after now notes moves).reason? holder = some .requested ↔
      ∃ original, Move.original? moves holder = some original ∧ Move.IsCancelled moves original := by
  have hsuffix : ∀ later other earlier, moves = later ++ .cancel other :: earlier →
      earlier <:+ moves := by
    rintro later other earlier rfl
    exact (List.suffix_cons _ _).trans (List.suffix_append _ _)
  rw [reason?, Option.bind_eq_some_iff]
  simp only [Cancellation.reason?_eq_requested_iff, mem_raised_after]
  constructor
  · rintro ⟨handle, hh, later, other, earlier, old, heq, hold, hsignal⟩
    obtain ⟨original, ho⟩ := (exists_original?_iff now notes h).mpr ⟨handle, hh⟩
    have hsame := (signal_eq_iff h (hsuffix _ _ _ heq) hold hh).mp hsignal
    exact ⟨original, ho, later, other, earlier, heq, hsame.trans ho⟩
  · rintro ⟨original, ho, later, other, earlier, heq, hother⟩
    have he := hsuffix _ _ _ heq
    obtain ⟨handle, hh⟩ := (exists_original?_iff now notes h).mp ⟨original, ho⟩
    obtain ⟨old, hold⟩ := (exists_original?_iff now notes (h.of_suffix he)).mp ⟨original, hother⟩
    exact ⟨handle, hh, later, other, earlier, old, heq, hold,
      (signal_eq_iff h he hold hh).mpr (hother.trans ho.symm)⟩

/-- A deadline is reported by those who carry it and to whom no request is reported. -/
theorem reason?_eq_deadlineExceeded_iff (h : AreSound moves) :
    (after now notes moves).reason? holder = some .deadlineExceeded ↔
      (after now notes moves).reason? holder ≠ some .requested ∧
        ∃ deadline, Move.carried? now moves holder = some deadline ∧
          deadline ≤ Move.clock now moves := by
  rw [carried?_eq notes h, ← now_after notes]
  simp only [reason?]
  cases hh : (after now notes moves).held? holder with
  | none => simp
  | some handle =>
    simp only [Option.bind_some, Cancellation.reason?_eq_deadlineExceeded_iff, ne_eq,
      Cancellation.reason?_eq_requested_iff]

/-- Once a request is reported it is reported ever after, until the holder is put under another
handle. -/
theorem reason?_append_requested (h : AreSound (later ++ moves))
    (hr : ∀ move ∈ later, ¬move.Replaces holder)
    (hreported : (after now notes moves).reason? holder = some .requested) :
    (after now notes (later ++ moves)).reason? holder = some .requested := by
  have hmoves : AreSound moves := h.of_suffix (List.suffix_append _ _)
  obtain ⟨original, ho, hc⟩ := (reason?_eq_requested_iff hmoves).mp hreported
  obtain ⟨handle, hh⟩ := (exists_original?_iff now notes hmoves).mp ⟨original, ho⟩
  have hm : (Move.census moves).Has holder :=
    census_after now notes hmoves ▸ has_iff.mpr ⟨handle, hh⟩
  exact (reason?_eq_requested_iff h).mpr
    ⟨original, (Move.original?_append hm hr).trans ho, hc.append later⟩

/-- The context of a stage has the handle of the context from which it was made, until one of them
is put under another one. -/
theorem held?_offset {source : Nat} {done : UInt64}
    (h : AreSound (later ++ .offset source done :: earlier))
    (hr : ∀ move ∈ later, ¬move.Replaces (.context source) ∧
      ¬move.Replaces (.context (Move.census earlier).contexts)) :
    (after now notes (later ++ .offset source done :: earlier)).held?
        (.context (Move.census earlier).contexts) =
      (after now notes (later ++ .offset source done :: earlier)).held? (.context source) := by
  have hoffset : AreSound (.offset source done :: earlier) := h.of_suffix (List.suffix_append _ _)
  have hm : (Move.census earlier).Has (.context source) := hoffset.1 _ List.mem_cons_self
  have hnew : (Move.census (.offset source done :: earlier)).Has
      (.context (Move.census earlier).contexts) := Nat.lt_succ_self _
  have hmade : Move.source? (Move.census earlier) (.offset source done : Move σ)
      (.context (Move.census earlier).contexts) = some (.context source) := if_pos rfl
  have hself : Move.source? (Move.census earlier) (.offset source done : Move σ)
      (.context source) = some (.context source) := Move.source?_of_has hm id
  rw [held?_context_append h hnew fun move hl => (hr move hl).2,
    held?_context_append h (Move.has_counted hm _) fun move hl => (hr move hl).1,
    held?_after_cons hoffset, held?_after_cons hoffset, hmade, hself]
  rfl

/-! ## Holdings that are alike for a holder -/

/-- The holder cannot tell these from those: it has the same handle, and whoever cancels raises the
same signal. Others may have other deadlines. -/
structure AlikeFor (holder : Holder) (these those : Holdings σ) : Prop where
  has : these.census.Has holder
  census : these.census = those.census
  session : these.session = those.session
  signal : ∀ other, (these.held? other).map (·.signal) = (those.held? other).map (·.signal)
  held : these.held? holder = those.held? holder

namespace AlikeFor

variable {these those : Holdings σ} {move : Move σ}

theorem reason?_eq (h : AlikeFor holder these those) :
    these.reason? holder = those.reason? holder := by
  rw [reason?, reason?, h.held, h.session]

theorem session_apply (h : AlikeFor holder these those) (move : Move σ) :
    (these.apply move).session = (those.apply move).session := by
  cases move with
  | cancel other =>
    have hs := congrArg Option.toList (h.signal other)
    rw [Option.toList_map, Option.toList_map] at hs
    simp only [Holdings.apply, h.session, hs]
  | attach context handle =>
    simp only [Holdings.apply]
    split <;> split <;> exact h.session
  | _ => simp only [Holdings.apply, h.session]

/-- No move makes a difference to the holder, unless it puts it under another handle. -/
theorem apply (h : AlikeFor holder these those)
    (hn : ∀ other ∈ move.names, these.census.Has other) (hr : ¬move.Replaces holder) :
    AlikeFor holder (these.apply move) (those.apply move) := by
  have hn' : ∀ other ∈ move.names, those.census.Has other := h.census ▸ hn
  refine ⟨?_, ?_, h.session_apply move, fun other => ?_, ?_⟩
  · rw [census_apply hn]
    exact Move.has_counted h.has move
  · rw [census_apply hn, census_apply hn', h.census]
  · rw [held?_apply hn, held?_apply hn', next?, next?, h.census, h.session]
    cases move.source? those.census other with
    | none => rfl
    | some source => simpa [Function.comp_def] using h.signal source
  · rw [held?_apply hn, held?_apply hn', next?, next?, ← h.census, h.session,
      Move.source?_of_has h.has hr]
    simp only [h.held]

theorem append (h : AlikeFor holder (after now notes moves) (after now notes earlier))
    (hs : AreSound (later ++ moves)) (hr : ∀ move ∈ later, ¬move.Replaces holder) :
    AlikeFor holder (after now notes (later ++ moves)) (after now notes (later ++ earlier)) := by
  induction later with
  | nil => exact h
  | cons move later ih =>
    obtain ⟨hmove, hlater⟩ := List.forall_mem_cons.mp hr
    exact (ih hs.2 hlater).apply (census_after now notes hs.2 ▸ hs.1) hmove

end AlikeFor

/-- The deadline that a handle is given makes no difference to others that are there. -/
theorem alikeFor_limit {place : Nat} {term : Term} (h : AreSound (.limit place term :: moves))
    (hm : (Move.census moves).Has holder) (hne : holder ≠ .handle place) :
    AlikeFor holder (after now notes (.limit place term :: moves)) (after now notes moves) := by
  have hsource : ∀ other, Move.source? (Move.census moves) (.limit place term : Move σ) other =
      some other := fun other => by cases other <;> rfl
  have hgiven : Move.given? (Move.clock now moves) (.limit place term : Move σ) holder = none := by
    cases holder with
    | handle place => exact if_neg fun hp => hne (congrArg Holder.handle hp)
    | context place => rfl
  refine ⟨?_, ?_, rfl, fun other => ?_, ?_⟩
  · rw [census_after now notes h]
    exact Move.has_counted hm _
  · rw [census_after now notes h, census_after now notes h.2]
    rfl
  · rw [held?_after_cons h, hsource]
    simp [Function.comp_def]
  · rw [held?_after_cons h, hsource, hgiven]
    simp

end Holdings

/-! ## What is reported after any moves -/

open Holdings (after)
open Move (AreSound)

variable {moves : List (Move σ)}

/-- What is reported after some moves, the latest first. -/
structure ReportsByFamily (now : Instant) (notes : σ) (moves : List (Move σ)) : Prop where
  /-- Everybody comes from one original. -/
  family : ∀ holder, (Move.census moves).Has holder →
    ∃ original, Move.original? moves holder = some original
  /-- Whoever looks fails with the reason there is to stop, and succeeds when there is none. -/
  check : ∀ holder, (Move.census moves).Has holder →
    (after now notes moves).check? holder = some
      (((after now notes moves).reason? holder).elim (.ok ()) fun reason =>
        .error (.cancelled reason))
  /-- A request is reported by those who come from the original of somebody who has cancelled,
  whatever deadlines they carry. -/
  requested_iff : ∀ holder, (after now notes moves).reason? holder = some .requested ↔
    ∃ original, Move.original? moves holder = some original ∧ Move.IsCancelled moves original
  /-- It is reported ever after, by a context until it is put under another handle. -/
  requested_lasts : ∀ holder, (after now notes moves).reason? holder = some .requested →
    ∀ later, AreSound (later ++ moves) → (∀ move ∈ later, ¬move.Replaces holder) →
      (after now notes (later ++ moves)).reason? holder = some .requested
  /-- Where no request is reported, a deadline that has passed is, by those who carry it. -/
  deadline_iff : ∀ holder, (after now notes moves).reason? holder = some .deadlineExceeded ↔
    (after now notes moves).reason? holder ≠ some .requested ∧
      ∃ deadline, Move.carried? now moves holder = some deadline ∧ deadline ≤ Move.clock now moves
  /-- Without a deadline that a handle was given, everybody else who was there before, its copies
  among them, would report the same, unless it was put under another handle since. -/
  deadline_apart : ∀ later place term earlier, moves = later ++ .limit place term :: earlier →
    ∀ holder, (Move.census earlier).Has holder → holder ≠ .handle place →
      (∀ move ∈ later, ¬move.Replaces holder) →
        (after now notes moves).reason? holder = (after now notes (later ++ earlier)).reason? holder
  /-- The context of a stage reports the same as the context from which it was made, unless one of
  them was put under another handle since. -/
  stage : ∀ later source done earlier, moves = later ++ .offset source done :: earlier →
    (∀ move ∈ later, ¬move.Replaces (.context source) ∧
      ¬move.Replaces (.context (Move.census earlier).contexts)) →
        (after now notes moves).reason? (.context (Move.census earlier).contexts) =
          (after now notes moves).reason? (.context source)

/-- **Handles report by their families.** After any moves with handles and contexts, a request is
reported by the family in which somebody has cancelled, for good and before all deadlines. A
deadline is reported by the copies that carry it, and makes no difference to the others. -/
theorem reportsByFamily (h : AreSound moves) (now : Instant) (notes : σ) :
    ReportsByFamily now notes moves where
  family holder hm := by
    rw [Holdings.exists_original?_iff now notes h, ← Holdings.has_iff,
      Holdings.census_after now notes h]
    exact hm
  check holder hm := Holdings.check?_eq (Holdings.census_after now notes h ▸ hm)
  requested_iff _ := Holdings.reason?_eq_requested_iff h
  requested_lasts _ hreported _ hlater hr := Holdings.reason?_append_requested hlater hr hreported
  deadline_iff _ := Holdings.reason?_eq_deadlineExceeded_iff h
  deadline_apart := by
    rintro later place term earlier rfl holder hm hne hr
    have hlimit : AreSound (.limit place term :: earlier) := h.of_suffix (List.suffix_append _ _)
    exact ((Holdings.alikeFor_limit hlimit hm hne).append h hr).reason?_eq
  stage := by
    rintro later source done earlier rfl hr
    rw [Holdings.reason?, Holdings.reason?, Holdings.held?_offset h hr]

/-- The first copy was made before the deadline was given and does not report it. The second one
does, and so do a context under it and its stage. When the first copy cancels, they all report this
in the place of the deadline. -/
theorem reportsByFamily_limited :
    let waited : List (Move Unit) := [.wait 5, .offset 0 3, .attach 0 2, .openContext,
      .copy (.handle 0), .limit 0 (.span 5), .copy (.handle 0), .create]
    let moves := .cancel (.handle 1) :: waited
    let holders := [.handle 0, .handle 1, .handle 2, .context 0, .context 1]
    AreSound waited ∧ AreSound moves ∧
      holders.map (after 0 () waited).reason? = [some .deadlineExceeded, none,
        some .deadlineExceeded, some .deadlineExceeded, some .deadlineExceeded] ∧
      holders.map (after 0 () moves).reason? = .replicate 5 (some .requested) ∧
      ReportsByFamily 0 () waited ∧ ReportsByFamily 0 () moves := by
  intro waited moves holders
  have hwaited : AreSound waited := by decide
  have hmoves : AreSound moves := by decide
  exact ⟨hwaited, hmoves, by decide, by decide, reportsByFamily hwaited 0 (),
    reportsByFamily hmoves 0 ()⟩

end Hanyu
