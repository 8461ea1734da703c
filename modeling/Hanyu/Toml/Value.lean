import Hanyu.Text

/-!
# TOML values

What a TOML document says, and what can be asked of it by a reader that expects a certain shape.

* `field?_table`, `field?_array`: a record is written as a table or as the array of its fields.
* `entries?_moment`: a date-time reads as a table of one reserved key.
-/

namespace Hanyu.Toml

/-- A value of a TOML document. -/
inductive Value where
  | string (text : Text)
  | integer (value : Int)
  /-- A number with a fraction or an exponent, as written. -/
  | float (written : Text)
  | boolean (value : Bool)
  /-- A date, a time or both, in canonical form. -/
  | moment (written : Text)
  | array (items : List Value)
  | table (entries : List (Text × Value))

/-- Why a text is no TOML document: what is wrong, and how many characters were left to read. -/
structure Problem where
  reason : String
  remaining : Nat

/-- The line and the column, both counted from 1, of the character with so many characters from it
to the end of the text. -/
def position (text : Text) (remaining : Nat) : Nat × Nat :=
  let before := text.take (text.length - remaining)
  (before.count '\n' + 1, (before.reverse.takeWhile (· != '\n')).length + 1)

/-- The wording of a problem with a text. -/
def Problem.message (problem : Problem) (text : Text) : String :=
  let place := position text problem.remaining
  let line := place.1
  let column := place.2
  let reason := problem.reason
  s!"line {line}, column {column}: {reason}"

namespace Value

/-- The text of a string. -/
def text? : Value → Option Text
  | string text => some text
  | _ => none

/-- A number that is not negative. -/
def natural? : Value → Option Nat
  | integer (.ofNat n) => some n
  | _ => none

/-- The items of an array of strings. -/
def texts? : Value → Option (List Text)
  | array items => items.mapM text?
  | _ => none

/-- The key under which a date-time can be read as a table. -/
def momentKey : Text := "$__toml_private_datetime".toList

/-- The entries of a table. A date-time is a table of one entry. -/
def entries? : Value → Option (List (Text × Value))
  | table entries => some entries
  | moment written => some [(momentKey, string written)]
  | _ => none

/-- The field of a record, by its name in a table or by its place in an array. The outer `none`
says that the value is no record, the inner one that the field is not given. -/
def field? (name : Text) (place : Nat) : Value → Option (Option Value)
  | table entries => some (entries.lookup name)
  | array items => some items[place]?
  | moment written => some ([(momentKey, string written)].lookup name)
  | _ => none

@[simp] theorem field?_table (name : Text) (place : Nat) (entries : List (Text × Value)) :
    (table entries).field? name place = some (entries.lookup name) := rfl

@[simp] theorem field?_array (name : Text) (place : Nat) (items : List Value) :
    (array items).field? name place = some items[place]? := rfl

@[simp] theorem entries?_moment (written : Text) :
    (moment written).entries? = some [(momentKey, string written)] := rfl

end Value

end Hanyu.Toml
