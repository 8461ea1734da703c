import Hanyu.Text

/-!
# JSON

JSON values without fractions, the fields of records in them, and their layout on several lines.

* `Fields.get?_named`, `Fields.get?_placed`: a record is written as an object or as the array of its
  fields.
* `byte?_byte`, `list?_array_map`: what is written is read back.
* `escape_of_plain`: most characters stand for themselves in a string.
-/

namespace Hanyu

/-- A JSON value. -/
inductive Json where
  | null
  | boolean (value : Bool)
  | number (value : Int)
  | string (text : Text)
  | array (items : List Json)
  | object (entries : List (Text × Json))

namespace Json

/-! ## Reading values -/

/-- The value of a boolean. -/
def boolean? : Json → Option Bool
  | boolean value => some value
  | _ => none

/-- The text of a string. -/
def text? : Json → Option Text
  | string text => some text
  | _ => none

/-- A number that fits into eight bits. -/
def byte? : Json → Option UInt8
  | number (.ofNat n) => if n < UInt8.size then some (.ofNat n) else none
  | _ => none

/-- The items of an array, read in one way. -/
def list? {α : Type} (read : Json → Option α) : Json → Option (List α)
  | array items => items.mapM read
  | _ => none

/-- A value that may be null. -/
def nullable? {α : Type} (read : Json → Option α) : Json → Option (Option α)
  | null => some none
  | value => (read value).map some

/-- The fields of a record, by name or by place. -/
inductive Fields where
  | named (entries : List (Text × Json))
  | placed (items : List Json)

/-- The fields of a record with so many fields; an array may not have more. -/
def fields? (count : Nat) : Json → Option Fields
  | object entries => some (.named entries)
  | array items => if items.length ≤ count then some (.placed items) else none
  | _ => none

namespace Fields

/-- The field with this name, or at this place. -/
def get? (fields : Fields) (name : String) (place : Nat) : Option Json :=
  match fields with
  | named entries => entries.lookup name.toList
  | placed items => items[place]?

/-- A field that has to be given. -/
def required? {α : Type} (fields : Fields) (read : Json → Option α) (name : String) (place : Nat) :
    Option α :=
  (fields.get? name place).bind read

/-- A field that has a value also when it is not given. -/
def optional? {α : Type} (fields : Fields) (read : Json → Option α) (default : α) (name : String)
    (place : Nat) : Option α :=
  match fields.get? name place with
  | some value => read value
  | none => some default

@[simp] theorem get?_named (entries : List (Text × Json)) (name : String) (place : Nat) :
    (named entries).get? name place = entries.lookup name.toList := rfl

@[simp] theorem get?_placed (items : List Json) (name : String) (place : Nat) :
    (placed items).get? name place = items[place]? := rfl

end Fields

/-! ## Writing values -/

/-- A field of a record in writing. -/
def field (name : String) (value : Json) : Text × Json := (name.toList, value)

/-- Texts as an array. -/
def texts (list : List Text) : Json := array (list.map string)

/-- A number of eight bits. -/
def byte (n : UInt8) : Json := number n.toNat

/-- A value that may be missing. -/
def nullable {α : Type} (write : α → Json) : Option α → Json
  | some a => write a
  | none => null

@[simp] theorem text?_string (text : Text) : text? (string text) = some text := rfl

@[simp] theorem boolean?_boolean (value : Bool) : boolean? (boolean value) = some value := rfl

@[simp] theorem byte?_byte (n : UInt8) : byte? (byte n) = some n := by
  change (if n.toNat < UInt8.size then some (UInt8.ofNat n.toNat) else none) = some n
  rw [if_pos n.toNat_lt]
  simp

theorem list?_array_map {α : Type} {read : Json → Option α} {write : α → Json}
    (h : ∀ a, read (write a) = some a) (list : List α) :
    list? read (array (list.map write)) = some list := by
  simp only [list?]
  induction list with
  | nil => rfl
  | cons a rest ih => simp [h, ih]

@[simp] theorem list?_texts (list : List Text) : list? text? (texts list) = some list :=
  list?_array_map text?_string list

@[simp] theorem nullable?_nullable_byte (value : Option UInt8) :
    nullable? byte? (nullable byte value) = some value := by
  cases value with
  | none => rfl
  | some n => exact congrArg (Option.map some) (byte?_byte n)

/-- A hexadecimal digit. -/
def hexDigit (n : Nat) : Char := Nat.digitChar n

/-- The spelling of a character in a string. -/
def escape (c : Char) : Text :=
  if c = '"' then ['\\', '"']
  else if c = '\\' then ['\\', '\\']
  else if c = '\x08' then ['\\', 'b']
  else if c = '\x0c' then ['\\', 'f']
  else if c = '\n' then ['\\', 'n']
  else if c = '\r' then ['\\', 'r']
  else if c = '\t' then ['\\', 't']
  else if c.toNat < 32 then ['\\', 'u', '0', '0', hexDigit (c.toNat / 16), hexDigit (c.toNat % 16)]
  else [c]

/-- A text as a string. -/
def quoted (text : Text) : Text := '"' :: (text.flatMap escape ++ ['"'])

/-- A new line at a depth, with two spaces for each level. -/
def newLine (depth : Nat) : Text := '\n' :: List.replicate (2 * depth) ' '

/-- Parts between brackets, each on lines of its own. -/
def bracketed (opening closing : Char) (depth : Nat) (parts : List Text) : Text :=
  match parts with
  | [] => [opening, closing]
  | parts =>
    opening :: (newLine (depth + 1) ++ Text.join (',' :: newLine (depth + 1)) parts ++
      newLine depth ++ [closing])

mutual

/-- A value laid out on several lines, at a depth. -/
def layOut (depth : Nat) : Json → Text
  | null => "null".toList
  | boolean value => (toString value).toList
  | number value => (toString value).toList
  | string text => quoted text
  | array items => bracketed '[' ']' depth (layOutItems (depth + 1) items)
  | object entries => bracketed '{' '}' depth (layOutEntries (depth + 1) entries)

/-- The items of an array, each laid out. -/
def layOutItems (depth : Nat) : List Json → List Text
  | [] => []
  | item :: items => layOut depth item :: layOutItems depth items

/-- The entries of an object, each laid out. -/
def layOutEntries (depth : Nat) : List (Text × Json) → List Text
  | [] => []
  | (key, value) :: entries =>
    (quoted key ++ ':' :: ' ' :: layOut depth value) :: layOutEntries depth entries

end

/-- A value laid out on several lines. -/
def pretty (value : Json) : Text := layOut 0 value

theorem escape_of_plain {c : Char} (hq : c ≠ '"') (hb : c ≠ '\\') (h : 32 ≤ c.toNat) :
    escape c = [c] := by
  unfold escape
  have hne : ∀ d : Char, d.toNat < 32 → c ≠ d := by
    rintro d hd rfl
    omega
  rw [if_neg hq, if_neg hb, if_neg (hne _ (by decide)), if_neg (hne _ (by decide)),
    if_neg (hne _ (by decide)), if_neg (hne _ (by decide)), if_neg (hne _ (by decide)),
    if_neg (by omega)]

end Json

end Hanyu
