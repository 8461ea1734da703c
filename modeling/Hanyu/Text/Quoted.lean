import Hanyu.Text
import Hanyu.Unicode.Printable

/-!
# Quoted text

Text inside a message stands in double quotes, with every character spelled out that a reader
could not see: quotes and backslashes after a backslash, line ends by their letters, and other
invisible or combining characters by their code point.

* `escape_of_isPrintable`: a character that shows on its own stands for itself.
-/

namespace Hanyu.Text

/-- A code point in hexadecimal. -/
def hexadecimal (n : Nat) : Text := Nat.toDigits 16 n

/-- The spelling of one character inside double quotes. -/
def escape (c : Char) : Text :=
  if c = '"' then ['\\', '"']
  else if c = '\\' then ['\\', '\\']
  else if c = '\n' then ['\\', 'n']
  else if c = '\r' then ['\\', 'r']
  else if c = '\t' then ['\\', 't']
  else if c = '\x00' then ['\\', '0']
  else if Unicode.isPrintable c && !Unicode.isGraphemeExtend c then [c]
  else ['\\', 'u', '{'] ++ hexadecimal c.toNat ++ ['}']

/-- The text in double quotes. -/
def quoted (text : Text) : Text := '"' :: (text.flatMap escape ++ ['"'])

/-- Several quoted texts in brackets. -/
def quotedList (texts : List Text) : Text :=
  '[' :: (join [',', ' '] (texts.map quoted) ++ [']'])

theorem escape_of_isPrintable {c : Char} (hp : Unicode.isPrintable c = true)
    (he : Unicode.isGraphemeExtend c = false) (hq : c ≠ '"') (hb : c ≠ '\\') (hn : c ≠ '\n')
    (hr : c ≠ '\r') (ht : c ≠ '\t') (h0 : c ≠ '\x00') : escape c = [c] := by
  simp [escape, *]

end Hanyu.Text
