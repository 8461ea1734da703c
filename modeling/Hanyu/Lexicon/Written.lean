import Hanyu.Lexicon
import Hanyu.Toml.Reader

/-!
# Lexicons in writing

A lexicon is written as a TOML document with a table `words`, from words to tags, and a table
`readings`, from characters to lists of numeric readings. Either may be missing; other keys are
ignored.

* `read_nil`: a document without words and readings is refused.
-/

namespace Hanyu.Lexicon

/-- Why a text is no lexicon. -/
inductive ReadFailure where
  /-- It is no document of the right shape, for the reason given. -/
  | unreadable (reason : String)
  | refused (refusal : Refusal)
deriving DecidableEq, Repr

/-- The wording of a failure to read a lexicon. -/
def ReadFailure.message : ReadFailure → String
  | unreadable reason => "TOML parse error: " ++ reason
  | refused refusal => refusal.message

/-- The table under a key, with the values read in one way; a missing table is empty. -/
def table? {α : Type} (entries : List (Text × Toml.Value)) (key : String)
    (read : Toml.Value → Option α) : Option (List (Text × α)) :=
  match entries.lookup key.toList with
  | none => some []
  | some value => do
    (← value.entries?).mapM fun (name, value) => (read value).map fun a => (name, a)

/-- The lexicon that a text writes. -/
def read (text : Text) : Except ReadFailure Lexicon :=
  match Toml.read text with
  | .error problem => .error (.unreadable (problem.message text))
  | .ok entries =>
    match table? entries "words" Toml.Value.text?, table? entries "readings" Toml.Value.texts? with
    | some words, some readings => (ofTables words readings).mapError .refused
    | none, _ => .error (.unreadable "words must be a table of strings")
    | _, none => .error (.unreadable "readings must be a table of arrays of strings")

theorem read_nil : read [] = .error (.refused .empty) := rfl

end Hanyu.Lexicon
