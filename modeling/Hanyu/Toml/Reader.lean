import Hanyu.Toml.Quotation
import Hanyu.Toml.Document

/-!
# Reading TOML

A document is a sequence of lines: blank lines and comments, headers in brackets, and keys with
their values. Arrays may go on over lines; inline tables may not.

* `read_nil`: an empty document has no entries.
* `maxDepth`: the number of brackets that may be open at once.
-/

namespace Hanyu.Toml

/-- The greatest number of brackets that may be open at once around a value. -/
def maxDepth : Nat := 79

/-- The text after spaces and tabs. -/
def dropBlanks (text : Text) : Text := text.dropWhile fun c => c = ' ' || c = '\t'

/-- The text after the end of a line, which may have a comment before it. -/
def endOfLine (text : Text) : Except Problem Text :=
  let rest := match dropBlanks text with
    | '#' :: rest => rest.dropWhile isPlain
    | rest => rest
  match rest with
  | [] => .ok []
  | '\n' :: rest => .ok rest
  | '\r' :: '\n' :: rest => .ok rest
  | rest => wanted "the end of the line" rest

/-- The text after blanks, line ends and comments. -/
def dropLines (inComment : Bool) : Text → Except Problem Text
  | [] => .ok []
  | '\n' :: rest => dropLines false rest
  | '\r' :: '\n' :: rest => dropLines false rest
  | c :: rest =>
    if inComment then
      if isPlain c then dropLines true rest else wanted "the end of the line" (c :: rest)
    else if c = ' ' || c = '\t' then dropLines false rest
    else if c = '#' then dropLines true rest
    else .ok (c :: rest)

/-- Whether a character may stand in a key without quotes. -/
def isKeyChar (c : Char) : Bool := c.isAlphanum || c = '_' || c = '-'

/-- A key without dots, and the text after it. -/
def simpleKey (text : Text) : Except Problem (Text × Text) :=
  match text with
  | '"' :: _ => lineString text
  | '\'' :: _ => lineString text
  | _ =>
    match text.takeWhile isKeyChar with
    | [] => wanted "a key" text
    | key => .ok (key, text.dropWhile isKeyChar)

/-- The steps of a dotted key, and the text after it. The number bounds the steps to be read. -/
def dottedKey : Nat → Text → Except Problem (List Text × Text)
  | 0, text => wanted "a shorter key" text
  | n + 1, text => do
    let (key, rest) ← simpleKey (dropBlanks text)
    match dropBlanks rest with
    | '.' :: rest => do
      let (keys, rest) ← dottedKey n rest
      return (key :: keys, rest)
    | rest => return ([key], rest)

/-- A dotted key split into the steps to a table and the key in it, and the text after it. -/
def keyPath (text : Text) : Except Problem (List Text × Text × Text) := do
  let (keys, rest) ← dottedKey maxDepth text
  match keys.getLast? with
  | some key => return (keys.dropLast, key, rest)
  | none => wanted "a key" text

/-- The text after a character that has to come next. -/
def expect (c : Char) (text : Text) : Except Problem Text :=
  match text with
  | d :: rest => if d = c then .ok rest else wanted (toString c) text
  | [] => wanted (toString c) text

/-- The failure to give a key its value. -/
def taken {α : Type} (key : Text) (text : Text) : Except Problem α :=
  .error ⟨"key " ++ String.ofList key ++ " cannot be defined here", text.length⟩

/-- The items of an array after its opening bracket, and the text after it. -/
def arrayItems (item : Text → Except Problem (Value × Text)) :
    Nat → Text → Except Problem (List Value × Text)
  | 0, text => wanted "the end of the array" text
  | n + 1, text => do
    match ← dropLines false text with
    | ']' :: rest => return ([], rest)
    | text => do
      let (value, rest) ← item text
      match ← dropLines false rest with
      | ']' :: rest => return ([value], rest)
      | ',' :: rest => do
        let (values, rest) ← arrayItems item n rest
        return (value :: values, rest)
      | rest => wanted "a comma or the end of the array" rest

/-- The entries of an inline table, and the text after it. -/
def inlineEntries (item : Text → Except Problem (Value × Text)) (tree : Tree) :
    Nat → Text → Except Problem (Tree × Text)
  | 0, text => wanted "the end of the table" text
  | n + 1, text => do
    let (path, key, rest) ← keyPath text
    let (value, rest) ← item (dropBlanks (← expect '=' rest))
    match tree.insert path key value with
    | none => taken key text
    | some tree =>
      match dropBlanks rest with
      | '}' :: rest => return (tree, rest)
      | ',' :: rest => inlineEntries item tree n rest
      | rest => wanted "a comma or the end of the table" rest

/-- Whether a character may stand in a value without quotes and brackets. -/
def isRunChar (c : Char) : Bool :=
  c.isAlphanum || c = '+' || c = '-' || c = '_' || c = '.' || c = ':'

/-- A number, a boolean or a date-time, and the text after it. A time may follow its date after a
space. -/
def scalar (text : Text) : Except Problem (Value × Text) :=
  let run := text.takeWhile isRunChar
  let rest := text.dropWhile isRunChar
  let time : Text := match rest with
    | ' ' :: more => more.takeWhile isRunChar
    | _ => []
  if afterDate? run = some [] && !time.isEmpty then
    if isTimeWithOffset time then
      .ok (.moment (canonicalMoment (run ++ ' ' :: time)), rest.drop (time.length + 1))
    else wanted "a time of day" rest
  else
    match scalar? run with
    | some value => .ok (value, rest)
    | none => wanted "a value" text

/-- A value inside at most so many brackets, and the text after it. -/
def value : (depth : Nat) → Text → Except Problem (Value × Text)
  | _, '"' :: rest => (quotation ('"' :: rest)).map fun (content, rest) => (.string content, rest)
  | _, '\'' :: rest =>
    (quotation ('\'' :: rest)).map fun (content, rest) => (.string content, rest)
  | 0, '[' :: rest => wanted "fewer brackets" rest
  | 0, '{' :: rest => wanted "fewer brackets" rest
  | depth + 1, '[' :: rest => do
    let (items, rest) ← arrayItems (value depth) (rest.length + 1) rest
    return (.array items, rest)
  | depth + 1, '{' :: rest =>
    match dropBlanks rest with
    | '}' :: rest => return (.table [], rest)
    | rest => do
      let (tree, rest) ← inlineEntries (value depth) [] (rest.length + 1) rest
      return (.table (entriesValue tree), rest)
  | _, text => scalar text

/-- A header after its opening bracket, and the text after it. -/
def header (text : Text) : Except Problem (List Text × Text × Text) := do
  let (path, key, rest) ← keyPath text
  return (path, key, ← expect ']' rest)

/-- The document after the rest of its lines. The table that `current` names is open. The number
bounds the lines to be read. -/
def lines (current : List Text) (document : Tree) : Nat → Text → Except Problem Tree
  | 0, text => wanted "fewer lines" text
  | n + 1, text => do
    match dropBlanks text with
    | [] => return document
    | '#' :: rest => lines current document n (← endOfLine ('#' :: rest))
    | '\n' :: rest => lines current document n rest
    | '\r' :: '\n' :: rest => lines current document n rest
    | '[' :: '[' :: rest => do
      let (path, key, rest) ← header rest
      let rest ← endOfLine (← expect ']' rest)
      match document.atHeader (Tree.openSeries key) path with
      | none => taken key text
      | some document => lines (path ++ [key]) document n rest
    | '[' :: rest => do
      let (path, key, rest) ← header rest
      let rest ← endOfLine rest
      match document.atHeader (Tree.openTable key) path with
      | none => taken key text
      | some document => lines (path ++ [key]) document n rest
    | text => do
      let (path, key, rest) ← keyPath text
      let (value, rest) ← value maxDepth (dropBlanks (← expect '=' rest))
      let rest ← endOfLine rest
      match document.atHeader (Tree.insert path key value) current with
      | none => taken key text
      | some document => lines current document n rest

/-- The text without a byte order mark at its beginning. -/
def dropByteOrderMark : Text → Text
  | '\ufeff' :: rest => rest
  | text => text

/-- The entries of the document that a text writes. -/
def read (text : Text) : Except Problem (List (Text × Value)) := do
  let text := dropByteOrderMark text
  let document ← lines [] [] (text.length + 1) text
  return entriesValue document

theorem read_nil : read [] = .ok [] := rfl

end Hanyu.Toml
