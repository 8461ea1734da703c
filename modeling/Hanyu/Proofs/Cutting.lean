import Hanyu.Proofs.Offsets
import Mathlib.Data.List.DropRight

/-!
# Cutting a text greedily

A text is gone through once, and only as much is remembered of it as has not been cut off. What
comes out is what comes out when one chunk after another is taken from the text: up to the last
break among the characters that are allowed, or all of these when they have no break.

* `Chunk.Window.read`: the window after a text, without its history. Reading a character
  (`Chunk.Window.push_read`) and cutting (`Chunk.Window.cut_read`) lead from one such window to the
  next.
* `Chunk.splitFrom_read`: so a window can be put back before the text that follows it.
* `Chunk.split_of_lt`: what is left of a text after its first chunk is cut as a text of its own.
* `Chunk.IsChunking`: what the chunks of a text are.
* `Chunk.split_cuts_greedily`: the pass by byte offsets, the chunks of a text and the greedy cutting agree,
  and give a chunking.
-/

namespace Hanyu.Chunk

/-! ## The first chunk -/

/-- What follows a part at the beginning of a text. -/
theorem drop_of_append {text first rest : Text} (h : first ++ rest = text) :
    text.drop first.length = rest := by
  rw [← h, List.drop_left]

/-- The text up to its last break. -/
def upToBreak (text : Text) : Text := text.rdropWhile fun c => !isChunkBreak c

/-- The text after its last break. -/
def afterBreak (text : Text) : Text := text.rtakeWhile fun c => !isChunkBreak c

@[simp] theorem upToBreak_nil : upToBreak [] = [] := rfl

@[simp] theorem afterBreak_nil : afterBreak [] = [] := rfl

theorem upToBreak_append (text : Text) : upToBreak text ++ afterBreak text = text :=
  List.rdropWhile_append_rtakeWhile

theorem upToBreak_eq_nil_iff {text : Text} :
    upToBreak text = [] ↔ ∀ c ∈ text, isChunkBreak c = false := by
  simp [upToBreak]

theorem drop_upToBreak (text : Text) : text.drop (upToBreak text).length = afterBreak text :=
  drop_of_append (upToBreak_append text)

theorem afterBreak_eq_self {text : Text} (h : upToBreak text = []) : afterBreak text = text := by
  simpa [h] using upToBreak_append text

theorem upToBreak_afterBreak (text : Text) : upToBreak (afterBreak text) = [] :=
  upToBreak_eq_nil_iff.mpr fun _ hc => by simpa using List.mem_rtakeWhile_imp hc

theorem upToBreak_concat (text : Text) (c : Char) :
    upToBreak (text ++ [c]) = if isChunkBreak c then text ++ [c] else upToBreak text := by
  simp only [upToBreak, List.rdropWhile_concat]
  cases isChunkBreak c <;> rfl

theorem afterBreak_concat (text : Text) (c : Char) :
    afterBreak (text ++ [c]) = if isChunkBreak c then [] else afterBreak text ++ [c] := by
  simp only [afterBreak, List.rtakeWhile_concat]
  cases isChunkBreak c <;> rfl

/-- The part of a text that is cut off when no more characters are allowed. -/
def piece (window : Text) : Text := if upToBreak window = [] then window else upToBreak window

/-- The first chunk of a text that has more than `limit` characters. -/
def firstChunk (limit : Nat) (text : Text) : Text := piece (text.take limit)

theorem exists_piece_append (window : Text) : ∃ left, piece window ++ left = window := by
  unfold piece
  split
  · exact ⟨[], List.append_nil window⟩
  · exact ⟨afterBreak window, upToBreak_append window⟩

theorem length_piece_le (window : Text) : (piece window).length ≤ window.length := by
  obtain ⟨left, hleft⟩ := exists_piece_append window
  have hlength := congrArg List.length hleft
  rw [List.length_append] at hlength
  omega

theorem piece_ne_nil {window : Text} (h : window ≠ []) : piece window ≠ [] := by
  unfold piece
  split
  · exact h
  · assumption

/-- What is cut off ends with a break, or is all there is and has none. -/
theorem piece_cases (window : Text) :
    (∃ c, (piece window).getLast? = some c ∧ isChunkBreak c = true) ∨
      (piece window = window ∧ ∀ c ∈ window, isChunkBreak c = false) := by
  unfold piece
  split
  · rename_i hnone
    exact .inr ⟨rfl, upToBreak_eq_nil_iff.mp hnone⟩
  · rename_i hsome
    have hlast : ¬(!isChunkBreak ((upToBreak window).getLast hsome)) = true :=
      List.rdropWhile_last_not _ _ hsome
    exact .inl ⟨_, List.getLast?_eq_some_getLast hsome, by simpa using hlast⟩

theorem firstChunk_ne_nil {limit : Nat} {text : Text} (hl : 0 < limit) (ht : text ≠ []) :
    firstChunk limit text ≠ [] :=
  piece_ne_nil (by simp [ht]; omega)

theorem length_firstChunk_le (limit : Nat) (text : Text) : (firstChunk limit text).length ≤ limit :=
  Nat.le_trans (length_piece_le _) (List.length_take_le _ _)

/-! ## The window after a text -/

namespace Window

/-- The window after a text. -/
def read (text : Text) : Window := ⟨(upToBreak text).reverse, (afterBreak text).reverse⟩

@[simp] theorem content_read (text : Text) : (read text).content = text := by
  simp [read, content, upToBreak_append]

@[simp] theorem size_read (text : Text) : (read text).size = text.length := by
  rw [← length_content, content_read]

theorem push_read (text : Text) (c : Char) : (read text).push c = read (text ++ [c]) := by
  by_cases hc : isChunkBreak c
  · have htext : (afterBreak text).reverse ++ (upToBreak text).reverse = text.reverse := by
      rw [← List.reverse_append, upToBreak_append]
    simp [push, read, hc, upToBreak_concat, afterBreak_concat, htext]
  · simp [push, read, hc, upToBreak_concat, afterBreak_concat]

/-- After a piece is cut off, the window is the one after the text that remains. -/
theorem cut_read (text : Text) :
    (read text).cut = (piece text, read (text.drop (piece text).length)) := by
  by_cases h : upToBreak text = []
  · have hpiece : piece text = text := if_pos h
    rw [hpiece, List.drop_length]
    simp only [read, cut, h, afterBreak_eq_self h]
    simp [empty]
  · have hpiece : piece text = upToBreak text := if_neg h
    have hrest := upToBreak_afterBreak text
    rw [hpiece, drop_upToBreak]
    simp only [read, cut, hrest, afterBreak_eq_self hrest]
    simp [h]

end Window

/-! ## One chunk after another -/

/-- A text that fits into the window goes there. -/
theorem splitFrom_read (limit : Nat) (text more rest : Text)
    (h : text.length + more.length ≤ limit) :
    splitFrom limit (.read text) (more ++ rest) = splitFrom limit (.read (text ++ more)) rest := by
  induction more generalizing text with
  | nil => simp
  | cons c more ih =>
    rw [List.length_cons] at h
    have hfits : (text ++ [c]).length + more.length ≤ limit := by
      rw [List.length_append, List.length_singleton]
      omega
    rw [List.cons_append, splitFrom, Window.size_read, if_neg (by omega), Window.push_read,
      ih (text ++ [c]) hfits, List.append_assoc, List.singleton_append]

theorem split_eq_splitFrom {limit : Nat} (hl : 0 < limit) {text : Text} (ht : text ≠ []) :
    split text limit = splitFrom limit (.read []) text := by
  rw [split, if_neg (by simpa using ht), if_neg (by omega)]
  rfl

/-- A text that is within the limit is one chunk. -/
theorem split_of_le {limit : Nat} {text : Text} (ht : text ≠ []) (h : text.length ≤ limit) :
    split text limit = [text] := by
  have hl : 0 < limit := Nat.lt_of_lt_of_le (List.length_pos_iff.mpr ht) h
  have hread := splitFrom_read limit [] text [] (by simpa using h)
  rw [List.append_nil, List.nil_append] at hread
  rw [split_eq_splitFrom hl ht, hread, splitFrom, Window.content_read]

/-- A full window is cut, and what is left of it is put before the text that follows. -/
theorem splitFrom_full {window : Text} (hw : window ≠ []) (c : Char) (rest : Text) :
    splitFrom window.length (.read window) (c :: rest) = piece window ::
      splitFrom window.length (.read [])
        ((window ++ c :: rest).drop (piece window).length) := by
  obtain ⟨left, hleft⟩ := exists_piece_append window
  have hdrop : (window ++ c :: rest).drop (piece window).length = left ++ [c] ++ rest :=
    drop_of_append (by rw [List.append_assoc, ← List.append_assoc, hleft, List.singleton_append])
  -- A piece is not empty, so there is room for the next character.
  have hroom : ([] : Text).length + (left ++ [c]).length ≤ window.length := by
    have hpos := List.length_pos_iff.mpr (piece_ne_nil hw)
    have hlength := congrArg List.length hleft
    simp only [List.length_append] at hlength
    simp only [List.length_nil, List.length_append, List.length_singleton]
    omega
  rw [splitFrom, Window.size_read, if_pos rfl, Window.cut_read, drop_of_append hleft,
    Window.push_read, hdrop, splitFrom_read _ [] (left ++ [c]) rest hroom, List.nil_append]

/-- What is left of a text after its first chunk is cut as a text of its own. -/
theorem split_of_lt {limit : Nat} (hl : 0 < limit) {text : Text} (h : limit < text.length) :
    split text limit =
      firstChunk limit text :: split (text.drop (firstChunk limit text).length) limit := by
  obtain ⟨c, rest, hrest⟩ : ∃ c rest, text.drop limit = c :: rest :=
    List.exists_cons_of_ne_nil (by simpa using h)
  have htext : text.take limit ++ c :: rest = text := by rw [← hrest, List.take_append_drop]
  have hwindow : (text.take limit).length = limit := List.length_take_of_le (by omega)
  have hne : text.take limit ≠ [] := List.length_pos_iff.mp (by omega)
  have hleft : text.drop (firstChunk limit text).length ≠ [] := by
    have hle := length_firstChunk_le limit text
    simp only [ne_eq, List.drop_eq_nil_iff]
    omega
  have hread := splitFrom_read limit [] (text.take limit) (c :: rest) (by simp)
  have hfull := splitFrom_full hne c rest
  rw [hwindow, htext] at hfull
  rw [List.nil_append, htext] at hread
  rw [split_eq_splitFrom hl (List.length_pos_iff.mp (by omega)), split_eq_splitFrom hl hleft, hread,
    hfull]
  rfl

/-! ## The greedy cutting -/

/-- The chunks of a text, taken from it one after another; zero means no limit. -/
def greedy (limit : Nat) (text : Text) : List Text :=
  if text = [] then []
  else if limit = 0 ∨ text.length ≤ limit then [text]
  else firstChunk limit text :: greedy limit (text.drop (firstChunk limit text).length)
termination_by text.length
decreasing_by
  rename_i hne hlong
  have hpos : 0 < (firstChunk limit text).length :=
    List.length_pos_iff.mpr (firstChunk_ne_nil (by omega) hne)
  rw [List.length_drop]
  omega

theorem split_eq_greedy (text : Text) (limit : Nat) : split text limit = greedy limit text := by
  fun_induction greedy limit text with
  | case1 => rfl
  | case2 text hne hshort =>
    rcases hshort with rfl | hle
    · exact split_zero hne
    · exact split_of_le hne hle
  | case3 text hne hlong ih =>
    rw [split_of_lt (by omega) (by omega), ih]

theorem ne_nil_of_mem_greedy {limit : Nat} {text chunk : Text} (h : chunk ∈ greedy limit text) :
    chunk ≠ [] := by
  fun_induction greedy limit text with
  | case1 => cases h
  | case2 text hne hshort =>
    rw [List.mem_singleton.mp h]
    exact hne
  | case3 text hne hlong ih =>
    rcases List.mem_cons.mp h with rfl | h
    · exact firstChunk_ne_nil (by omega) hne
    · exact ih h

/-- A chunk that is followed by another ends with a break, or is as long as allowed and has none. -/
theorem cases_of_mem_dropLast_greedy {limit : Nat} {text chunk : Text}
    (h : chunk ∈ (greedy limit text).dropLast) :
    (∃ c, chunk.getLast? = some c ∧ isChunkBreak c = true) ∨
      (chunk.length = limit ∧ ∀ c ∈ chunk, isChunkBreak c = false) := by
  fun_induction greedy limit text with
  | case1 => cases h
  | case2 => cases h
  | case3 text hne hlong ih =>
    have hrest : greedy limit (text.drop (firstChunk limit text).length) ≠ [] := by
      have hle := length_firstChunk_le limit text
      rw [← split_eq_greedy, ne_eq, split_eq_nil_iff, List.drop_eq_nil_iff]
      omega
    rw [List.dropLast_cons_of_ne_nil hrest] at h
    rcases List.mem_cons.mp h with rfl | h
    · rcases piece_cases (text.take limit) with hbreak | ⟨hall, hnone⟩
      · exact .inl hbreak
      · refine .inr ⟨?_, ?_⟩
        · rw [firstChunk, hall, List.length_take]
          omega
        · rwa [firstChunk, hall]
    · exact ih h

/-- What the chunks of a text are. -/
structure IsChunking (limit : Nat) (text : Text) (chunks : List Text) : Prop where
  /-- Nothing is lost, added or moved. -/
  flatten : chunks.flatten = text
  ne_nil : ∀ chunk ∈ chunks, chunk ≠ []
  /-- Zero means no limit. -/
  length_le : 0 < limit → ∀ chunk ∈ chunks, chunk.length ≤ limit
  /-- Before the last one, a chunk ends with a break, or is full and has none. -/
  full : ∀ chunk ∈ chunks.dropLast,
    (∃ c, chunk.getLast? = some c ∧ isChunkBreak c = true) ∨
      (chunk.length = limit ∧ ∀ c ∈ chunk, isChunkBreak c = false)

theorem isChunking_split (text : Text) (limit : Nat) :
    IsChunking limit text (split text limit) where
  flatten := flatten_split text limit
  ne_nil _ h := ne_nil_of_mem_greedy (split_eq_greedy text limit ▸ h)
  length_le hl _ h := length_le_of_mem_split hl h
  full _ h := cases_of_mem_dropLast_greedy (split_eq_greedy text limit ▸ h)

/-- **The chunks of a text.** A single pass that remembers byte offsets cuts at ends of characters
only. It gives what the greedy cutting gives: up to the last break among the characters that are
allowed, or all of these when they have no break, and then the chunks of what is left. -/
theorem split_cuts_greedily (text : Text) (limit : Nat) :
    splitBytes? text limit = some (split text limit) ∧
      split text limit = greedy limit text ∧ IsChunking limit text (split text limit) :=
  ⟨splitBytes?_eq text limit, split_eq_greedy text limit, isChunking_split text limit⟩

/-- A break right behind the window is too late for its chunk. -/
example : splitBytes? "一。二三四 五六".toList 3 =
    some ["一。".toList, "二三四".toList, " 五六".toList] := by
  decide

end Hanyu.Chunk
