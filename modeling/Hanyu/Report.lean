import Hanyu.Catalog
import Hanyu.Text.Columns
import Hanyu.Token.Written

/-!
# Reports

Batches, schemes and providers as lines of aligned columns, and as JSON.

* `tableLines_length`: a table has one row for every token, below its header.
-/

namespace Hanyu.Report

/-- Lines with a line end after each. -/
def lines (list : List Text) : Text := list.flatMap fun line => line ++ ['\n']

/-- The greatest of some widths, and of the least one. -/
def widest (least : Nat) (widths : List Nat) : Nat := widths.foldl max least

/-! ## Tokens -/

/-- The cells of a row of the table of tokens. -/
structure Row where
  surface : Text
  lexical : Text
  romanization : Text
  tag : Text
  tone : Text
  candidates : Text
deriving DecidableEq, Repr

namespace Row

/-- The header of the table. -/
def header : Row :=
  ⟨"surface".toList, "lex".toList, "romanization".toList, "pos".toList, "tone".toList,
    "candidates".toList⟩

/-- The candidates of a reading, those of a character with slashes between them. -/
def candidatesOf (reading : Reading) : Text :=
  Text.join [' '] (reading.candidates.map (Text.join ['/']))

/-- The row of a token. -/
def ofToken (token : Token) : Row where
  surface := token.surface
  lexical := if token.isLexical then "yes".toList else ['-']
  romanization := token.romanization
  tag := token.tag.getD []
  tone := ((token.reading?.bind Reading.tone).map fun tone => Text.decimal tone.toNat).getD []
  candidates := (token.reading?.map candidatesOf).getD []

/-- The row with its surface and its romanization padded to these widths. -/
def layOut (surfaceWidth romanizationWidth : Nat) (row : Row) : Text :=
  row.surface.padColumns surfaceWidth ++ [' ', ' '] ++ row.lexical.padTo 4 ++ [' '] ++
    row.romanization.padColumns romanizationWidth ++ [' ', ' '] ++ row.tag.padTo 4 ++ [' '] ++
    row.tone.padTo 4 ++ [' '] ++ row.candidates

end Row

/-- The lines of the table of a batch: the header, and the tokens in order without the blanks at
the end of their rows. -/
def tableLines (batch : Batch) : List Text :=
  let rows := batch.tokens.map Row.ofToken
  let width (cell : Row → Text) := widest (cell Row.header).length
    (rows.map fun row => (cell row).columns)
  let layOut := Row.layOut (width Row.surface) (width Row.romanization)
  layOut Row.header :: rows.map fun row => (layOut row).trimEnd

/-- A batch as a table. -/
def table (batch : Batch) : Text := lines (tableLines batch)

theorem tableLines_length (batch : Batch) :
    (tableLines batch).length = batch.tokens.length + 1 := by
  simp [tableLines]

/-! ## Schemes and providers -/

/-- Whether a scheme bears the name of the default scheme. -/
def isDefault (default : Option Text) (scheme : Scheme) : Bool := default == some scheme.name

/-- The line of a scheme, with its name padded to a width. -/
def schemeLine (default : Option Text) (width : Nat) (scheme : Scheme) : Text :=
  (if isDefault default scheme then '*' else ' ') :: ' ' ::
    (scheme.name.padColumns width ++ [' ', ' '] ++ scheme.parameter.padTo 13 ++ [' '] ++
      scheme.description)

/-- A list of schemes, in which the default scheme is marked. -/
def schemes (list : List Scheme) (default : Option Text) : Text :=
  let width := widest 0 (list.map fun scheme => scheme.name.columns)
  lines (list.map (schemeLine default width))

/-- The number of bytes of a text in UTF-8. -/
def byteLength (text : Text) : Nat := text.foldl (fun n c => n + c.utf8Size) 0

/-- The line of a provider, with its name padded to a width. -/
def providerLine {π : Type} (width : Nat) (entry : ProviderEntry π) : Text :=
  entry.name.padColumns width ++ [' ', ' '] ++ Text.padTo 14 entry.kind.name.toList ++ [' '] ++
    Text.join [',', ' '] entry.capabilities

/-- A list of providers. -/
def providers {π : Type} (list : List (ProviderEntry π)) : Text :=
  let width := widest 0 (list.map fun entry => byteLength entry.name)
  lines (list.map (providerLine width))

/-! ## Listings in JSON -/

/-- The fields of a scheme in writing. -/
def schemeFields (scheme : Scheme) : List (Text × Json) := [
  Json.field "name" (.string scheme.name),
  Json.field "description" (.string scheme.description),
  Json.field "provider" (.string scheme.provider),
  Json.field "param" (.string scheme.parameter)]

/-- A list of schemes in writing, each with a note on whether it is the default scheme. -/
def schemesJson (list : List Scheme) (default : Option Text) : Json :=
  .array (list.map fun scheme =>
    .object (schemeFields scheme ++ [Json.field "default" (.boolean (isDefault default scheme))]))

/-- A provider in writing. -/
def providerJson {π : Type} (entry : ProviderEntry π) : Json := .object [
  Json.field "language" (.string entry.language),
  Json.field "name" (.string entry.name),
  Json.field "kind" (.string entry.kind.name.toList),
  Json.field "capabilities" (.texts entry.capabilities)]

/-- A list of providers in writing. -/
def providersJson {π : Type} (list : List (ProviderEntry π)) : Json :=
  .array (list.map providerJson)

end Hanyu.Report
