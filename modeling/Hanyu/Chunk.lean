import Hanyu.Script

/-!
# Chunks

A long text is cut into chunks of at most a given number of characters, right after the last
sentence end or blank that fits, or else where the chunk is full.

* `Chunk.Window.content_push`: a character read goes to the end of the window.
* `Chunk.split_nil`, `Chunk.split_zero`: no text has no chunk, and no limit makes one chunk.
-/

namespace Hanyu.Chunk

/-- The chunk being read, last character first: `kept` reaches to its last break, and `tail` stands
after it. -/
structure Window where
  kept : Text
  tail : Text

namespace Window

/-- The window before any character is read. -/
def empty : Window := ⟨[], []⟩

/-- The characters read, in reading order. -/
def content (w : Window) : Text := w.kept.reverse ++ w.tail.reverse

/-- The number of characters read. -/
def size (w : Window) : Nat := w.kept.length + w.tail.length

/-- The window after one more character. -/
def push (w : Window) (c : Char) : Window :=
  if isChunkBreak c then ⟨c :: (w.tail ++ w.kept), []⟩ else ⟨w.kept, c :: w.tail⟩

/-- The chunk to cut off a full window, and the window that remains: up to the last break, or the
whole window when it has none. -/
def cut (w : Window) : Text × Window :=
  if w.kept.isEmpty then (w.tail.reverse, empty) else (w.kept.reverse, ⟨[], w.tail⟩)

theorem content_push (w : Window) (c : Char) : (w.push c).content = w.content ++ [c] := by
  simp only [push]; split <;> simp [content]

end Window

/-- The chunks of a window and the text after it. -/
def splitFrom (limit : Nat) (w : Window) : Text → List Text
  | [] => [w.content]
  | c :: rest =>
    if w.size = limit then w.cut.1 :: splitFrom limit (w.cut.2.push c) rest
    else splitFrom limit (w.push c) rest

/-- The chunks of a text, each of at most `limit` characters; zero means no limit. -/
def split (text : Text) (limit : Nat) : List Text :=
  if text.isEmpty then [] else if limit = 0 then [text] else splitFrom limit .empty text

@[simp] theorem split_nil (limit : Nat) : split [] limit = [] := rfl

theorem split_zero {text : Text} (h : text ≠ []) : split text 0 = [text] := by
  simp [split, h]

end Hanyu.Chunk
