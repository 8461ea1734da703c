import Hanyu.Settings
import Hanyu.Toml.Reader

/-!
# Settings in writing

Settings are written as a TOML document with the records `pipeline` and `zh`. A record is a table,
or an array of its fields in their order. Unknown keys are ignored.

* `read_standardText`: the standard settings are what their written form says.
-/

namespace Hanyu.Settings

/-- Why settings cannot be installed. -/
inductive Failure where
  /-- The text is no document of the right shape, for the reason given. -/
  | unreadable (reason : String)
  | invalid (value : InvalidValue)
  /-- Settings have been installed before. -/
  | alreadyInstalled
deriving DecidableEq, Repr

/-- The wording of a failure. -/
def Failure.message : Failure → String
  | unreadable reason => "TOML parse error: " ++ reason
  | invalid value => value.message
  | alreadyInstalled => "settings already initialized"

/-- A field that has to be given. -/
def required? {α : Type} (read : Toml.Value → Option α) (record : Toml.Value) (name : String)
    (place : Nat) : Option α := do
  read (← ← record.field? name.toList place)

/-- A field with the value it has when it is not given. -/
def optional? {α : Type} (read : Toml.Value → Option α) (default : α) (record : Toml.Value)
    (name : String) (place : Nat) : Option α := do
  match ← record.field? name.toList place with
  | some value => read value
  | none => return default

/-- The settings that the entries of a document write, whatever their values. -/
def ofEntries? (entries : List (Text × Toml.Value)) : Option Settings := do
  let pipeline ← entries.lookup "pipeline".toList
  let chinese ← entries.lookup "zh".toList
  return {
    checkInterval := ← required? Toml.Value.natural? pipeline "cancel_check_interval" 0
    chunkLimit := ← required? Toml.Value.natural? pipeline "default_max_input_length" 1
    defaultScheme := ← required? Toml.Value.text? chinese "default_scheme" 0
    tokenizerLimit := ← optional? Toml.Value.natural? 0 chinese "tokenizer_max_input_length" 1 }

/-- The settings that a text writes. -/
def read (text : Text) : Except Failure Settings :=
  match Toml.read text with
  | .error problem => .error (.unreadable (problem.message text))
  | .ok entries =>
    match ofEntries? entries with
    | none => .error (.unreadable "a setting is missing or has the wrong type")
    | some settings => settings.check.mapError .invalid

/-- The standard settings in writing, line by line. -/
def standardLines : List String := [
  "# Default engine settings. Override with settings::init_custom before first use.",
  "",
  "[pipeline]",
  "# Items processed between cancellation checks (1..=100).",
  "cancel_check_interval = 100",
  "# Chunk size, in characters, when no stage declares its own limit.",
  "default_max_input_length = 4096",
  "",
  "[zh]",
  "default_scheme = \"Pinyin\"",
  "# 0 = no limit beyond pipeline.default_max_input_length.",
  "tokenizer_max_input_length = 0"]

/-- The standard settings in writing. -/
def standardText : Text := standardLines.flatMap fun line => line.toList ++ ['\n']

theorem read_standardText : (read standardText).toOption = some standard := by decide +kernel

/-- The desk with settings installed. A text that writes no settings is refused, and so is any text
once settings are installed; settings that have been read stay as they are. -/
def Desk.install (text : Text) (desk : Desk) : Except Failure Unit × Desk :=
  match Settings.read text with
  | .error failure => (.error failure, desk)
  | .ok settings =>
    match desk.installed with
    | some _ => (.error .alreadyInstalled, desk)
    | none => (.ok (), { desk with installed := some settings })

end Hanyu.Settings
