import Hanyu.Proofs.Chunks
import Mathlib.Data.String.Basic

/-!
# Chunks by byte offsets

A text that is stored in UTF-8 is cut at offsets, which count bytes. An offset inside a character is
no place to cut at. Here the text is gone through once, with the offset of the chunk being read and
the offset after its last break, and every cut asks for a part of the text between two offsets.

* `Text.splitAtByte?_eq_some_iff`: a text is cut where a character ends, and nowhere else.
* `Text.slice?_eq_some_iff`: so both ends of a part are such places.
* `Chunk.Pass.Represents`: what the offsets mean. Cutting (`Chunk.Pass.cut?_eq`) and reading a
  character (`Chunk.Pass.read?_eq`) keep this.
* `Chunk.splitBytes?_eq`: the pass gives the chunks of the text, and every offset that it uses is a
  place to cut at.
-/

namespace Hanyu

open String (utf8Len)

namespace Text

/-! ## Places to cut at -/

/-- The parts of a text before and after a byte offset. There are none when the offset is inside a
character or behind the text. -/
def splitAtByte? : Text → Nat → Option (Text × Text)
  | [], offset => if offset = 0 then some ([], []) else none
  | c :: text, offset =>
    if offset = 0 then some ([], c :: text)
    else if c.utf8Size ≤ offset then
      (splitAtByte? text (offset - c.utf8Size)).map fun (before, after) => (c :: before, after)
    else none

/-- The part of a text between two byte offsets. There is none when one of them is inside a
character or behind the text, or when they are in the wrong order. -/
def slice? (text : Text) (start stop : Nat) : Option Text := do
  let (before, _) ← text.splitAtByte? stop
  let (_, part) ← before.splitAtByte? start
  return part

theorem splitAtByte?_append (before after : Text) :
    (before ++ after).splitAtByte? (utf8Len before) = some (before, after) := by
  induction before with
  | nil => cases after <;> rfl
  | cons c before ih =>
    have hpos := c.utf8Size_pos
    rw [List.cons_append, splitAtByte?, String.utf8Len_cons, if_neg (by omega), if_pos (by omega),
      Nat.add_sub_cancel, ih]
    rfl

/-- A text is cut where a character ends, and nowhere else. -/
theorem splitAtByte?_eq_some_iff {text before after : Text} {offset : Nat} :
    text.splitAtByte? offset = some (before, after) ↔
      text = before ++ after ∧ utf8Len before = offset := by
  constructor
  · intro h
    fun_induction splitAtByte? text offset generalizing before with
    | case1 =>
      cases h
      exact ⟨rfl, rfl⟩
    | case2 => cases h
    | case3 c text =>
      cases h
      exact ⟨rfl, rfl⟩
    | case4 c text offset h0 hc ih =>
      obtain ⟨⟨first, rest⟩, hs, he⟩ := Option.map_eq_some_iff.mp h
      cases he
      obtain ⟨rfl, hlen⟩ := ih hs
      exact ⟨rfl, by rw [String.utf8Len_cons]; omega⟩
    | case5 => cases h
  · rintro ⟨rfl, rfl⟩
    exact splitAtByte?_append before after

/-- Both ends of a part are where a character ends. -/
theorem slice?_eq_some_iff {text part : Text} {start stop : Nat} :
    text.slice? start stop = some part ↔
      ∃ before after, text = before ++ part ++ after ∧ utf8Len before = start ∧
        utf8Len before + utf8Len part = stop := by
  simp only [slice?, Option.bind_eq_bind, Option.bind_eq_some_iff, Option.pure_def,
    Option.some.injEq, Prod.exists, splitAtByte?_eq_some_iff]
  constructor
  · rintro ⟨_, after, ⟨rfl, rfl⟩, before, _, ⟨rfl, rfl⟩, rfl⟩
    exact ⟨before, after, rfl, rfl, (String.utf8Len_append _ _).symm⟩
  · rintro ⟨before, after, rfl, rfl, rfl⟩
    exact ⟨_, after, ⟨rfl, String.utf8Len_append _ _⟩, before, _, ⟨rfl, rfl⟩, rfl⟩

end Text

namespace Chunk

/-! ## Going through a text -/

/-- How far the pass over a text has come. -/
structure Pass where
  /-- The chunks that have been cut off. -/
  chunks : List Text
  /-- Where the chunk begins that is being read. -/
  start : Nat
  /-- The number of its characters. -/
  count : Nat
  /-- Where the last break ends that has been read. -/
  lastBreak : Option Nat

namespace Pass

/-- The pass before a text. -/
def empty : Pass := ⟨[], 0, 0, none⟩

/-- The pass after a chunk is cut off at an offset, or at the last break in the chunk before it. -/
def cut? (text : Text) (offset : Nat) (pass : Pass) : Option Pass := do
  let stop := (pass.lastBreak.filter (pass.start < ·)).getD offset
  let chunk ← text.slice? pass.start stop
  let rest ← text.slice? stop offset
  return ⟨pass.chunks ++ [chunk], stop, rest.length, pass.lastBreak.filter (stop < ·)⟩

/-- The pass after the character at an offset goes to its chunk. -/
def push (offset : Nat) (c : Char) (pass : Pass) : Pass :=
  { pass with
    count := pass.count + 1
    lastBreak := if isChunkBreak c then some (offset + c.utf8Size) else pass.lastBreak }

/-- The pass after the character at an offset, with which a new chunk begins when the one being read
is full. -/
def read? (text : Text) (limit offset : Nat) (c : Char) (pass : Pass) : Option Pass := do
  let pass ← if pass.count = limit then pass.cut? text offset else some pass
  return pass.push offset c

/-- The chunks of a text that has been read up to an offset, where `rest` begins. -/
def finish? (text : Text) (limit : Nat) : (offset : Nat) → (rest : Text) → Pass →
    Option (List Text)
  | _, [], pass => do return pass.chunks ++ [← text.slice? pass.start (utf8Len text)]
  | offset, c :: rest, pass => do
    finish? text limit (offset + c.utf8Size) rest (← pass.read? text limit offset c)

end Pass

/-- The chunks of a text, cut at byte offsets; nothing when one of the offsets is no place to cut
at. -/
def splitBytes? (text : Text) (limit : Nat) : Option (List Text) :=
  if text.isEmpty then some []
  else if limit = 0 then some [text]
  else Pass.finish? text limit 0 text .empty

/-! ## What the offsets mean -/

namespace Pass

/-- A pass that has come to the end of `before` has cut off the chunks before a window and is
reading the window. -/
structure Represents (before : Text) (w : Window) (pass : Pass) : Prop where
  append : pass.chunks.flatten ++ w.content = before
  start : pass.start = utf8Len pass.chunks.flatten
  count : pass.count = w.size
  /-- The break is not looked at when it is not in the window. -/
  lastBreak : pass.lastBreak.filter (pass.start < ·) =
    if w.kept = [] then none else some (pass.start + utf8Len w.kept)

theorem represents_empty : Represents [] .empty .empty where
  append := rfl
  start := rfl
  count := rfl
  lastBreak := rfl

variable {text before : Text} {limit : Nat} {w : Window} {pass : Pass}

/-- No break is read after the last one in the window. -/
theorem filter_lastBreak (h : pass.Represents before w) {stop : Nat} (hs : pass.start ≤ stop)
    (hk : w.kept ≠ [] → stop = pass.start + utf8Len w.kept) :
    pass.lastBreak.filter (stop < ·) = none := by
  have hb := h.lastBreak
  cases hl : pass.lastBreak with
  | none => rfl
  | some b =>
    rw [hl, Option.filter_some] at hb
    rw [Option.filter_some, if_neg]
    split at hb
    · rename_i hlt
      by_cases hw : w.kept = []
      · rw [if_pos hw] at hb
        cases hb
      · rw [if_neg hw] at hb
        cases hb
        simp [hk hw]
    · rename_i hle
      simp only [decide_eq_true_eq] at hle ⊢
      omega

/-- What `cut?` gives, from the parts that it asks the text for. -/
theorem cut?_of_slices {offset stop : Nat} {chunk part : Text}
    (hstop : (pass.lastBreak.filter (pass.start < ·)).getD offset = stop)
    (hchunk : text.slice? pass.start stop = some chunk)
    (hpart : text.slice? stop offset = some part)
    (hbreak : pass.lastBreak.filter (stop < ·) = none) :
    pass.cut? text offset = some ⟨pass.chunks ++ [chunk], stop, part.length, none⟩ := by
  simp only [cut?, hstop, hchunk, hpart, hbreak]
  rfl

/-- Cutting a chunk off cuts it off the window. -/
theorem cut?_eq (h : pass.Represents before w) (rest : Text) :
    ∃ next : Pass, pass.cut? (before ++ rest) (utf8Len before) = some next ∧
      next.chunks = pass.chunks ++ [w.cut.1] ∧ next.Represents before w.cut.2 := by
  obtain ⟨kept, tail⟩ := w
  have hbefore : pass.chunks.flatten ++ (kept.reverse ++ tail.reverse) = before := h.append
  have hlength : pass.start + utf8Len kept + utf8Len tail = utf8Len before := by
    rw [← hbefore, h.start]
    simp [Nat.add_assoc]
  by_cases hk : kept = []
  · -- The whole window is cut off.
    subst hk
    have hrest : (before ++ rest).slice? (utf8Len before) (utf8Len before) = some [] :=
      Text.slice?_eq_some_iff.mpr ⟨before, rest, by simp, rfl, rfl⟩
    have hchunk : (before ++ rest).slice? pass.start (utf8Len before) = some tail.reverse :=
      Text.slice?_eq_some_iff.mpr ⟨pass.chunks.flatten, rest, by rw [← hbefore]; rfl,
        h.start.symm, by simpa [h.start] using hlength⟩
    refine ⟨_, cut?_of_slices (by rw [h.lastBreak]; rfl) hchunk hrest
      (filter_lastBreak h (by omega) fun hne => absurd rfl hne), rfl, ?_, ?_, rfl, rfl⟩
    · simpa [Window.cut, Window.content, Window.empty] using hbefore
    · rw [← hbefore]
      simp
  · -- The window is cut after its last break.
    have hcut : (⟨kept, tail⟩ : Window).cut = (kept.reverse, ⟨[], tail⟩) := by
      simp [Window.cut, hk]
    have hchunk : (before ++ rest).slice? pass.start (pass.start + utf8Len kept) =
        some kept.reverse :=
      Text.slice?_eq_some_iff.mpr ⟨pass.chunks.flatten, tail.reverse ++ rest,
        by rw [← hbefore]; simp, h.start.symm, by simp [h.start]⟩
    have hrest : (before ++ rest).slice? (pass.start + utf8Len kept) (utf8Len before) =
        some tail.reverse :=
      Text.slice?_eq_some_iff.mpr ⟨pass.chunks.flatten ++ kept.reverse, rest,
        by rw [← hbefore]; simp, by simp [h.start], by simpa [h.start] using hlength⟩
    refine ⟨_, cut?_of_slices (by rw [h.lastBreak, if_neg hk]; rfl) hchunk hrest
      (filter_lastBreak h (by omega) fun _ => rfl), ?_, ?_⟩
    · rw [hcut]
    · rw [hcut]
      refine ⟨?_, ?_, ?_, rfl⟩
      · simpa [Window.content] using hbefore
      · simp [h.start]
      · simp [Window.size]

/-- A character that is read goes to the end of the window. -/
theorem represents_push (h : pass.Represents before w) (c : Char) :
    (pass.push (utf8Len before) c).Represents (before ++ [c]) (w.push c) where
  append := by
    rw [Window.content_push, ← List.append_assoc]
    exact congrArg (· ++ [c]) h.append
  start := h.start
  count := by rw [Window.size_push, ← h.count, push]
  lastBreak := by
    by_cases hc : isChunkBreak c
    · have hlength : pass.start + utf8Len w.kept + utf8Len w.tail = utf8Len before := by
        rw [← h.append, h.start]
        simp [Window.content, Nat.add_assoc]
      have hpos := c.utf8Size_pos
      have hlt : pass.start < utf8Len before + c.utf8Size := by omega
      simp only [push, Window.push, if_pos hc, Option.filter_some, decide_eq_true hlt, if_true,
        reduceCtorEq, if_false, String.utf8Len_cons, String.utf8Len_append]
      congr 1
      omega
    · simpa [push, Window.push, hc] using h.lastBreak

/-- A full window is cut before a character is read. -/
theorem read?_eq (h : pass.Represents before w) (limit : Nat) (c : Char) (rest : Text) :
    ∃ next : Pass, pass.read? (before ++ rest) limit (utf8Len before) c = some next ∧
      next.chunks = pass.chunks ++ (if w.size = limit then [w.cut.1] else []) ∧
      next.Represents (before ++ [c]) ((if w.size = limit then w.cut.2 else w).push c) := by
  by_cases hfull : w.size = limit
  · obtain ⟨next, hnext, hchunks, hrep⟩ := cut?_eq h rest
    refine ⟨next.push (utf8Len before) c, ?_, ?_, ?_⟩
    · simp [read?, h.count, hfull, hnext]
    · rw [if_pos hfull]
      exact hchunks
    · rw [if_pos hfull]
      exact represents_push hrep c
  · refine ⟨pass.push (utf8Len before) c, ?_, ?_, ?_⟩
    · simp [read?, h.count, hfull]
    · rw [if_neg hfull, List.append_nil]
      rfl
    · rw [if_neg hfull]
      exact represents_push h c

/-- The chunks of a pass are those cut off and those of the window and what follows it. -/
theorem finish?_eq (h : pass.Represents before w) (limit : Nat) (rest : Text) :
    pass.finish? (before ++ rest) limit (utf8Len before) rest =
      some (pass.chunks ++ splitFrom limit w rest) := by
  induction rest generalizing before w pass with
  | nil =>
    have hchunk : before.slice? pass.start (utf8Len before) = some w.content :=
      Text.slice?_eq_some_iff.mpr ⟨pass.chunks.flatten, [], by rw [List.append_nil, h.append],
        h.start.symm, by rw [← h.append, String.utf8Len_append]⟩
    simp [finish?, splitFrom, hchunk]
  | cons c rest ih =>
    obtain ⟨next, hnext, hchunks, hrep⟩ := read?_eq h limit c (c :: rest)
    have hfinish := ih hrep
    rw [List.append_assoc, List.singleton_append, String.utf8Len_append, hchunks] at hfinish
    simp only [String.utf8Len_cons, String.utf8Len_nil, Nat.zero_add] at hfinish
    simp only [finish?, hnext, Option.bind_eq_bind, Option.bind_some, hfinish, splitFrom]
    split <;> simp

end Pass

/-- Every offset of the pass is a place to cut at, and the chunks are those of the text. -/
theorem splitBytes?_eq (text : Text) (limit : Nat) :
    splitBytes? text limit = some (split text limit) := by
  unfold splitBytes? split
  split
  · rfl
  split
  · rfl
  exact Pass.finish?_eq Pass.represents_empty limit text

end Chunk

end Hanyu
