import Hanyu.Text

/-!
# Settings

What can be set for the whole program, and the desk where a setting is installed before the first
use. Whoever reads the settings first freezes them.

* `check_eq_ok_iff`: the settings that may be installed.
* `Desk.read_read`: all readings give the same settings.
-/

namespace Hanyu

/-- The values that can be set. -/
structure Settings where
  /-- The number of items between two looks at the cancellation signal. -/
  checkInterval : Nat
  /-- The greatest number of characters of a chunk when no stage has a limit of its own. -/
  chunkLimit : Nat
  /-- The name of the scheme for Chinese when none, or none that exists, is asked for. -/
  defaultScheme : Text
  /-- The greatest number of characters of a chunk for the Chinese tokenizer; zero means any. -/
  tokenizerLimit : Nat
deriving DecidableEq, Repr

namespace Settings

/-- The greatest interval that may be set. -/
def maxCheckInterval : Nat := 100

/-- A setting with a value that it may not have. -/
structure InvalidValue where
  field : String
  reason : String
deriving DecidableEq, Repr

/-- The wording of an invalid value. -/
def InvalidValue.message (invalid : InvalidValue) : String :=
  "invalid value for " ++ invalid.field ++ ": " ++ invalid.reason

/-- The settings, when they may be installed: the first value that may not be is reported. -/
def check (settings : Settings) : Except InvalidValue Settings :=
  if settings.checkInterval = 0 || maxCheckInterval < settings.checkInterval then
    .error ⟨"pipeline.cancel_check_interval", s!"must be between 1 and {maxCheckInterval}"⟩
  else if settings.chunkLimit = 0 then
    .error ⟨"pipeline.default_max_input_length", "must be positive"⟩
  else if settings.defaultScheme.isBlank then
    .error ⟨"zh.default_scheme", "must not be empty"⟩
  else .ok settings

/-- The settings that hold when none are installed. -/
def standard : Settings := ⟨100, 4096, "Pinyin".toList, 0⟩

theorem check_eq_ok_iff {settings checked : Settings} :
    settings.check = .ok checked ↔
      checked = settings ∧ 1 ≤ settings.checkInterval ∧ settings.checkInterval ≤ maxCheckInterval ∧
        0 < settings.chunkLimit ∧ settings.defaultScheme.isBlank = false := by
  unfold check
  repeat' split
  all_goals simp_all
  · omega
  · constructor
    · rintro rfl; exact ⟨rfl, by omega⟩
    · exact fun h => h.1.symm

/-- Where settings are installed and read. -/
structure Desk where
  /-- The settings that have been installed. -/
  installed : Option Settings
  /-- The settings that have been read. -/
  frozen : Option Settings
deriving DecidableEq, Repr

namespace Desk

/-- The desk before anything is installed or read. -/
def new : Desk := ⟨none, none⟩

/-- The settings in force, which stay in force from now on. -/
def read (desk : Desk) : Settings × Desk :=
  match desk.frozen with
  | some settings => (settings, desk)
  | none =>
    let settings := desk.installed.getD standard
    (settings, { desk with frozen := some settings })

theorem read_read (desk : Desk) : desk.read.2.read = desk.read := by
  obtain ⟨installed, frozen⟩ := desk
  cases frozen <;> rfl

end Desk

end Settings

end Hanyu
