import Hanyu.CommandLine.Arguments
import Hanyu.CommandLine.Files
import Hanyu.Engine
import Hanyu.Report

/-!
# The program

What the program answers to its arguments, given the files it can read. It reads nothing else, and
everything it has to say goes to one of its two outputs.

* `parse_nil`: the program takes no empty command line.
* `respond_eq_of_parse`: what a command line that is understood comes to.
-/

namespace Hanyu.CommandLine

/-! ## Commands -/

/-- What `run` is given. -/
structure RunOptions where
  text : Text
  lexicon : Text
  scheme : Option Text
  mode : Text
  json : Bool
deriving DecidableEq, Repr

/-- What the program is told to do. -/
inductive Command where
  /-- Segment and transliterate a text. -/
  | run (options : RunOptions)
  /-- List the schemes of a language. -/
  | schemes (language : Text) (json : Bool)
  /-- List the providers of a language. -/
  | providers (language : Text) (json : Bool)
  /-- Print the standard settings. -/
  | exportSettings
  /-- Say whether a file holds settings. -/
  | validateSettings (file : Text)
  /-- Say whether a file holds a lexicon. -/
  | validateLexicon (file : Text)
deriving DecidableEq, Repr

/-- A command, and the file of the settings it is to be done with. -/
structure Invocation where
  settings : Option Text
  command : Command
deriving DecidableEq, Repr

/-- The first word of a command. -/
inductive Verb where
  | run
  | schemes
  | providers
  | exportSettings
  | validateSettings
  | validateLexicon
deriving DecidableEq, Repr

namespace Verb

/-- Every verb, in the order of their listing. -/
def all : List Verb :=
  [run, schemes, providers, exportSettings, validateSettings, validateLexicon]

/-- A verb as it is written. -/
def name : Verb → String
  | run => "run"
  | schemes => "schemes"
  | providers => "providers"
  | exportSettings => "settings-export"
  | validateSettings => "settings-validate"
  | validateLexicon => "lexicon-validate"

/-- The verb of a name. -/
def named? (name : Text) : Option Verb := all.find? fun verb => verb.name.toList == name

/-- The options that may stand before and after the verb. -/
def commonOptions : List (String × Takes) := [("settings", .anyValue), ("trace-dir", .nonempty)]

/-- What a verb takes. -/
def form : Verb → Form
  | run => ⟨commonOptions ++
      [("lexicon", .anyValue), ("scheme", .anyValue), ("mode", .anyValue), ("json", .nothing)],
      some 1⟩
  | schemes => ⟨commonOptions ++ [("lang", .anyValue), ("json", .nothing)], some 0⟩
  | providers => ⟨commonOptions ++ [("lang", .anyValue), ("json", .nothing)], some 0⟩
  | exportSettings => ⟨commonOptions, some 0⟩
  | validateSettings => ⟨commonOptions, some 1⟩
  | validateLexicon => ⟨commonOptions, some 1⟩

/-- The language that a listing is asked for. -/
def languageOf (given : Given) : Text := (given.value? "lang").getD Chinese.language

/-- The command of a verb with what it was given, when nothing is missing. -/
def command? (given : Given) : Verb → Option Command
  | run => do
    return .run {
      text := ← given.operands.head?
      lexicon := ← given.value? "lexicon"
      scheme := given.value? "scheme"
      mode := (given.value? "mode").getD Mode.combined.name.toList
      json := given.flag "json" }
  | schemes => some (.schemes (languageOf given) (given.flag "json"))
  | providers => some (.providers (languageOf given) (given.flag "json"))
  | exportSettings => some .exportSettings
  | validateSettings => given.operands.head?.map .validateSettings
  | validateLexicon => given.operands.head?.map .validateLexicon

end Verb

/-- Whether the words after `help` name something to be helped with. -/
def isHelpTopic : List Text → Bool
  | [] => true
  | [name] => (Verb.named? name).isSome || name == helpOption
  | _ => false

/-- The invocation that arguments write. Options after the verb come before those in front of it. -/
def parse (arguments : List Text) : Except Stop Invocation := do
  match ← readArguments ⟨Verb.commonOptions, none⟩ arguments with
  | (_, []) => throw .misuse
  | (outer, name :: rest) =>
    match Verb.named? name with
    | none => throw (if name = helpOption && isHelpTopic rest then .help else .misuse)
    | some verb =>
      let (inner, _) ← readArguments verb.form rest
      match verb.command? inner with
      | none => throw .misuse
      | some command =>
        return ⟨(inner.value? "settings").or (outer.value? "settings"), command⟩

/-! ## Answers -/

/-- The answer of a command: a text, or the message of its failure. -/
abbrev Answer := Except String Text

/-- A value in JSON, on lines of its own. -/
def jsonLines (value : Json) : Text := value.pretty ++ ['\n']

/-- An error in a message that begins with some words. -/
def complain {ε α : Type} (words : String) (message : ε → String) (result : Except ε α) :
    Except String α :=
  result.mapError fun error => words ++ message error

/-- The settings of an invocation. -/
def settingsOf (files : Files) : Option Text → Except Engine.Failure Settings
  | none => .ok .standard
  | some path =>
    match files.text path with
    | .error reason => .error (.unreadable path reason)
    | .ok text =>
      match Settings.Desk.install text .new with
      | (.error failure, _) => .error (.settings failure)
      | (.ok (), desk) => .ok desk.read.1

/-- The lexicon in a file. -/
def lexiconOf (files : Files) (path : Text) : Except Engine.Failure Lexicon :=
  match files.text path with
  | .error reason => .error (.unreadable path reason)
  | .ok text => (Lexicon.read text).mapError .lexicon

/-- A batch as it is printed after a run: as a table, below which the romanization stands when the
run has made one, or in JSON. -/
def batchReport (mode : Mode) (json : Bool) (batch : Batch) : Text :=
  if json then jsonLines batch.write
  else if mode = .combined then Report.table batch ++ '\n' :: batch.romanized [' '] ++ ['\n']
  else Report.table batch

/-- Segments and transliterates a text. -/
def run (files : Files) (settings : Settings) (options : RunOptions) : Answer :=
  match Mode.parse? options.mode with
  | none =>
    .error ("Unknown mode " ++ String.ofList options.mode.quoted ++
      " (expected tokenize or combined)")
  | some .transliterate => .error "transliterate mode needs tokenized input; use combined"
  | some mode => complain "Error: " Engine.Failure.message do
    let lexicon ← lexiconOf files options.lexicon
    let engine ← Engine.ofLexicon settings lexicon
    let batch ← engine.transliterateOnce Chinese.language options.scheme mode options.text
    return batchReport mode options.json batch

/-- The catalog for listings, which ask neither the segmenter nor the pronouncer anything. -/
def listingCatalog (settings : Settings) :
    Except String (Catalog (Chinese.Stage Unit LexiconSegmenter)) :=
  complain "Error building registry: " Engine.Failure.message
    ((Engine.ofLexicon settings .empty).map Engine.catalog)

/-- Lists the schemes of a language. -/
def listSchemes (settings : Settings) (language : Text) (json : Bool) : Answer := do
  let catalog ← listingCatalog settings
  let schemes := catalog.schemesOf language
  let default := (catalog.defaultScheme? language).map Scheme.name
  if schemes.isEmpty then throw ("No schemes registered for " ++ String.ofList language.quoted)
  return if json then jsonLines (Report.schemesJson schemes default)
    else Report.schemes schemes default

/-- Lists the providers of a language. -/
def listProviders (settings : Settings) (language : Text) (json : Bool) : Answer := do
  let catalog ← listingCatalog settings
  let providers := catalog.providersOf language
  if providers.isEmpty then throw ("No providers registered for " ++ String.ofList language.quoted)
  return if json then jsonLines (Report.providersJson providers) else Report.providers providers

/-- The text in a file that is to be validated. -/
def textToValidate (files : Files) (file : Text) : Except String Text :=
  complain ("Error reading " ++ String.ofList file ++ ": ") id (files.text file)

/-- Says whether a file holds settings, and which. -/
def validateSettings (files : Files) (file : Text) : Answer := do
  let settings ← complain "Error: " Settings.Failure.message
    (Settings.read (← textToValidate files file))
  let interval := toString settings.checkInterval
  let limit := toString settings.chunkLimit
  return ("OK: pipeline.cancel_check_interval=" ++ interval ++
    ", pipeline.default_max_input_length=" ++ limit ++ ", zh.default_scheme=").toList ++
      settings.defaultScheme.quoted ++ ['\n']

/-- Says whether a file holds a lexicon, and how large it is. -/
def validateLexicon (files : Files) (file : Text) : Answer := do
  let lexicon ← complain "Error: " Lexicon.ReadFailure.message
    (Lexicon.read (← textToValidate files file))
  return ("OK: " ++ toString lexicon.words.length ++ " words, " ++
    toString lexicon.readings.length ++ " characters with readings\n").toList

/-- The answer to a command. -/
def perform (files : Files) (settings : Settings) : Command → Answer
  | .run options => run files settings options
  | .schemes language json => listSchemes settings language json
  | .providers language json => listProviders settings language json
  | .exportSettings => return Settings.standardText
  | .validateSettings file => validateSettings files file
  | .validateLexicon file => validateLexicon files file

/-- The answer to an invocation, whose settings are looked at first. -/
def invoke (files : Files) (invocation : Invocation) : Answer := do
  let settings ← complain "Error: " Engine.Failure.message (settingsOf files invocation.settings)
  perform files settings invocation.command

/-! ## Responses -/

/-- What the program leaves behind: its exit code, and the text on each of its outputs. -/
structure Response where
  code : UInt32
  output : Text
  errors : Text
deriving DecidableEq, Repr

/-- How the program is used. -/
def usage : Text := ([
  "Usage: hanyu [--settings FILE] COMMAND\n",
  "\n",
  "Commands:\n",
  "  run TEXT --lexicon FILE [--scheme NAME] [--mode MODE] [--json]\n",
  "  schemes [--lang LANGUAGE] [--json]\n",
  "  providers [--lang LANGUAGE] [--json]\n",
  "  settings-export\n",
  "  settings-validate FILE\n",
  "  lexicon-validate FILE\n"].map String.toList).flatten

/-- The response with an answer. -/
def Response.ofAnswer : Answer → Response
  | .ok text => ⟨0, text, []⟩
  | .error message => ⟨1, [], message.toList ++ ['\n']⟩

/-- The response to arguments that were not read to their end. -/
def Response.ofStop : Stop → Response
  | .help => ⟨0, usage, []⟩
  | .misuse => ⟨2, [], usage⟩

/-- The response to the arguments of a command line. -/
def respond (files : Files) (arguments : List Text) : Response :=
  match parse arguments with
  | .ok invocation => .ofAnswer (invoke files invocation)
  | .error stop => .ofStop stop

theorem parse_nil : parse [] = .error .misuse := rfl

theorem respond_eq_of_parse {files : Files} {arguments : List Text} {invocation : Invocation}
    (h : parse arguments = .ok invocation) :
    respond files arguments = .ofAnswer (invoke files invocation) := by
  simp [respond, h]

end Hanyu.CommandLine
