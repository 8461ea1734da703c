import Hanyu.Toml.Scalar

/-!
# Quoted strings of TOML

A string stands in double quotes, where a backslash begins an escape, or in single quotes, where
nothing is special. Three quotes open a string that may have line ends in it.

* `isPlain_eq_true_iff`: the characters that stand for themselves in every comment.
-/

namespace Hanyu.Toml

/-- The failure to find what is wanted before a text. -/
def wanted {α : Type} (what : String) (text : Text) : Except Problem α :=
  .error ⟨"expected " ++ what, text.length⟩

/-- Whether a character may stand in a comment: a tab, or no control character of ASCII. -/
def isPlain (c : Char) : Bool := c = '\t' || (0x20 ≤ c.toNat && c.toNat != 0x7F)

/-- The character with a code point in hexadecimal, when there is one. -/
def codePoint? (digits : Text) : Option Char := do
  let n := ofDigits 16 (← digits.mapM (digitValue? 16))
  if n < 0xD800 || (0xDFFF < n && n < 0x110000) then some (Char.ofNat n) else none

/-- The character that a letter stands for after a backslash. -/
def escaped? : Char → Option Char
  | 'b' => some '\x08'
  | 't' => some '\t'
  | 'n' => some '\n'
  | 'f' => some '\x0c'
  | 'r' => some '\r'
  | '"' => some '"'
  | '\\' => some '\\'
  | _ => none

/-- One more character in front of a string that has been read. -/
def prepend (c : Char) : Except Problem (Text × Text) → Except Problem (Text × Text) :=
  Except.map fun (content, rest) => (c :: content, rest)

/-- The rest of a string in double quotes, and the text after it. -/
def basicString : Text → Except Problem (Text × Text)
  | '"' :: rest => .ok ([], rest)
  | '\\' :: 'u' :: a :: b :: c :: d :: rest =>
    match codePoint? [a, b, c, d] with
    | some x => prepend x (basicString rest)
    | none => wanted "a code point of four digits" (a :: b :: c :: d :: rest)
  | '\\' :: 'U' :: a :: b :: c :: d :: e :: f :: g :: h :: rest =>
    match codePoint? [a, b, c, d, e, f, g, h] with
    | some x => prepend x (basicString rest)
    | none => wanted "a code point of eight digits" (a :: b :: c :: d :: e :: f :: g :: h :: rest)
  | '\\' :: c :: rest =>
    match escaped? c with
    | some x => prepend x (basicString rest)
    | none => wanted "an escape" (c :: rest)
  | c :: rest =>
    if isPlain c && c != '\\' then prepend c (basicString rest)
    else wanted "the end of the string" (c :: rest)
  | [] => wanted "the end of the string" []

/-- The rest of a string in single quotes, and the text after it. -/
def literalString : Text → Except Problem (Text × Text)
  | '\'' :: rest => .ok ([], rest)
  | c :: rest =>
    if isPlain c then prepend c (literalString rest)
    else wanted "the end of the string" (c :: rest)
  | [] => wanted "the end of the string" []

/-- Whether nothing but spaces and tabs stands before the end of the line. -/
def endsLine (text : Text) : Bool :=
  match text.dropWhile fun c => c = ' ' || c = '\t' with
  | '\n' :: _ => true
  | '\r' :: '\n' :: _ => true
  | _ => false

/-- The rest of a string in three double quotes, and the text after it. While `skipping`, after a
backslash at the end of a line, blanks and line ends are left out. Up to two quotes may stand before
the closing three. -/
def basicLines (skipping : Bool) : Text → Except Problem (Text × Text)
  | '"' :: '"' :: '"' :: '"' :: '"' :: rest => .ok (['"', '"'], rest)
  | '"' :: '"' :: '"' :: '"' :: rest => .ok (['"'], rest)
  | '"' :: '"' :: '"' :: rest => .ok ([], rest)
  | '\r' :: '\n' :: rest =>
    if skipping then basicLines true rest else prepend '\n' (basicLines false rest)
  | '\\' :: 'u' :: a :: b :: c :: d :: rest =>
    match codePoint? [a, b, c, d] with
    | some x => prepend x (basicLines false rest)
    | none => wanted "a code point of four digits" (a :: b :: c :: d :: rest)
  | '\\' :: 'U' :: a :: b :: c :: d :: e :: f :: g :: h :: rest =>
    match codePoint? [a, b, c, d, e, f, g, h] with
    | some x => prepend x (basicLines false rest)
    | none => wanted "a code point of eight digits" (a :: b :: c :: d :: e :: f :: g :: h :: rest)
  | '\\' :: c :: rest =>
    if endsLine (c :: rest) then basicLines true (c :: rest) else
    match escaped? c with
    | some x => prepend x (basicLines false rest)
    | none => wanted "an escape" (c :: rest)
  | c :: rest =>
    if skipping && (c = ' ' || c = '\t' || c = '\n') then basicLines true rest
    else if c = '\n' || (isPlain c && c != '\\') then prepend c (basicLines false rest)
    else wanted "the end of the string" (c :: rest)
  | [] => wanted "the end of the string" []

/-- The rest of a string in three single quotes, and the text after it. -/
def literalLines : Text → Except Problem (Text × Text)
  | '\'' :: '\'' :: '\'' :: '\'' :: '\'' :: rest => .ok (['\'', '\''], rest)
  | '\'' :: '\'' :: '\'' :: '\'' :: rest => .ok (['\''], rest)
  | '\'' :: '\'' :: '\'' :: rest => .ok ([], rest)
  | '\r' :: '\n' :: rest => prepend '\n' (literalLines rest)
  | c :: rest =>
    if c = '\n' || isPlain c then prepend c (literalLines rest)
    else wanted "the end of the string" (c :: rest)
  | [] => wanted "the end of the string" []

/-- The text without a line end at its beginning. -/
def dropLineEnd : Text → Text
  | '\n' :: rest => rest
  | '\r' :: '\n' :: rest => rest
  | text => text

/-- A string on one line, and the text after it. -/
def lineString : Text → Except Problem (Text × Text)
  | '"' :: rest => basicString rest
  | '\'' :: rest => literalString rest
  | text => wanted "a string" text

/-- A string of any form, and the text after it. -/
def quotation : Text → Except Problem (Text × Text)
  | '"' :: '"' :: '"' :: rest => basicLines false (dropLineEnd rest)
  | '\'' :: '\'' :: '\'' :: rest => literalLines (dropLineEnd rest)
  | text => lineString text

theorem isPlain_eq_true_iff {c : Char} :
    isPlain c = true ↔ c = '\t' ∨ (0x20 ≤ c.toNat ∧ c.toNat ≠ 0x7F) := by
  simp [isPlain]

end Hanyu.Toml
