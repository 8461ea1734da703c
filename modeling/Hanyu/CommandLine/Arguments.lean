import Hanyu.Text

/-!
# Arguments of a command line

Options with two dashes, alone or with a value, and operands. A value follows its option as the next
argument or after an equals sign; a value that begins with a dash has to be written the second way.
After `--` every argument is an operand. An option may not be repeated.

* `Given.value?_addOption`: a value that was accepted is the one that is found.
* `readArguments_nil`: no arguments give nothing.
-/

namespace Hanyu.CommandLine

/-- Why arguments are not read to their end. -/
inductive Stop where
  /-- They are not what the program takes. -/
  | misuse
  /-- They ask how the program is used. -/
  | help
deriving DecidableEq, Repr

/-- How an argument reads on its own. -/
inductive Argument where
  | operand (text : Text)
  /-- An option with its name, and the value after its equals sign. -/
  | option (name : Text) (value : Option Text)
  /-- Letters after a single dash. -/
  | letters (text : Text)
  /-- The mark after which there are only operands. -/
  | separator
deriving DecidableEq, Repr

/-- Reads an argument on its own. -/
def Argument.ofText : Text → Argument
  | ['-', '-'] => separator
  | '-' :: '-' :: text =>
    match Text.cut? text ['='] with
    | some (name, value) => option name (some value)
    | none => option text none
  | '-' :: letter :: text => letters (letter :: text)
  | text => operand text

/-- What an option takes. -/
inductive Takes where
  | nothing
  | anyValue
  /-- A value that must not be empty. -/
  | nonempty
deriving DecidableEq, Repr

/-- A value for an option, when the option takes it. -/
def Takes.accept? (takes : Takes) (value : Text) : Option Text :=
  match takes with
  | .nothing => none
  | .anyValue => some value
  | .nonempty => if value.isEmpty then none else some value

/-- What a command takes. -/
structure Form where
  options : List (String × Takes)
  /-- The number of operands; without a number the form ends at its first operand. -/
  operands : Option Nat

/-- What an option of a form takes. -/
def Form.takes? (form : Form) (name : Text) : Option Takes :=
  (form.options.find? fun option => option.1.toList == name).map Prod.snd

/-- What a command was given. -/
structure Given where
  /-- The options in the order of the arguments, each with its value. -/
  options : List (Text × Option Text)
  operands : List Text
deriving DecidableEq, Repr

namespace Given

/-- Nothing given. -/
def nothing : Given := ⟨[], []⟩

/-- Whether an option is given. -/
def has (given : Given) (name : Text) : Bool := given.options.any fun option => option.1 == name

/-- The value of an option that is given with a value. -/
def value? (given : Given) (name : String) : Option Text :=
  (given.options.lookup name.toList).join

/-- Whether an option without a value is given. -/
def flag (given : Given) (name : String) : Bool := given.has name.toList

/-- One more option, which must not be there yet. -/
def addOption (given : Given) (name : Text) (value : Option Text) : Except Stop Given :=
  if given.has name then .error .misuse
  else .ok { given with options := given.options ++ [(name, value)] }

/-- One more operand, when the form has a place for it. -/
def addOperand (form : Form) (given : Given) (text : Text) : Except Stop Given :=
  if (form.operands.getD 0) ≤ given.operands.length then .error .misuse
  else .ok { given with operands := given.operands ++ [text] }

theorem value?_addOption {given given' : Given} {name : String} {value : Text}
    (h : given.addOption name.toList (some value) = .ok given') :
    given'.value? name = some value := by
  unfold addOption at h
  split at h
  · cases h
  · rename_i hn
    cases h
    have hl : given.options.lookup name.toList = none := by
      rw [List.lookup_eq_none_iff]
      intro option ho
      simp only [has, List.any_eq_true, not_exists, not_and, beq_iff_eq] at hn
      simpa using fun he => hn option ho he.symm
    simp [value?, List.lookup_append, hl]

end Given

/-- The name of the option that asks how the program is used. -/
def helpOption : Text := "help".toList

/-- Reads the arguments of a form on top of what was given before. What remains is empty, or begins
with the operand at which the form ends. -/
def readFrom (form : Form) (given : Given) : List Text → Except Stop (Given × List Text)
  | [] => .ok (given, [])
  | argument :: rest =>
    match Argument.ofText argument with
    | .separator => do return (← rest.foldlM (Given.addOperand form) given, [])
    | .letters text => .error (if text.head? = some 'h' then .help else .misuse)
    | .operand text =>
      if form.operands.isNone then .ok (given, argument :: rest)
      else do readFrom form (← given.addOperand form text) rest
    | .option name value =>
      match form.takes? name, value with
      | none, some _ => .error .misuse
      | none, none => .error (if name = helpOption then .help else .misuse)
      | some .nothing, some _ => .error .misuse
      | some .nothing, none => do readFrom form (← given.addOption name none) rest
      | some takes, some value =>
        match takes.accept? value with
        | none => .error .misuse
        | some value => do readFrom form (← given.addOption name (some value)) rest
      | some takes, none =>
        match rest with
        | [] => .error .misuse
        | next :: rest =>
          match Argument.ofText next with
          | .operand value =>
            match takes.accept? value with
            | none => .error .misuse
            | some value => do readFrom form (← given.addOption name (some value)) rest
          | _ => .error .misuse

/-- Reads the arguments of a form. -/
def readArguments (form : Form) (arguments : List Text) : Except Stop (Given × List Text) :=
  readFrom form .nothing arguments

theorem readArguments_nil (form : Form) : readArguments form [] = .ok (.nothing, []) := rfl

end Hanyu.CommandLine
