import Hanyu.Json
import Hanyu.Token

/-!
# Tokens in JSON

How batches and tokens are written as JSON values, and how they are read. What is empty or missing
is left out where the reader takes it for empty or missing anyhow; a reader ignores fields that it
does not know.

* `Reading.ofFields?_writeFields`: a reading is read as it was written.
-/

namespace Hanyu

namespace Reading

/-- The fields of a reading in writing. -/
def writeFields (reading : Reading) : List (Text × Json) := [
  Json.field "primary_reading" (.string reading.primary),
  Json.field "primary_numeric" (.string reading.numeric),
  Json.field "all_readings_by_character" (.array (reading.candidates.map .texts)),
  Json.field "numeric_reading_all" (.array (reading.numericCandidates.map .texts)),
  Json.field "tone" (.nullable .byte reading.tone),
  Json.field "original_tone" (.nullable .byte reading.lexicalTone),
  Json.field "tone_sandhi_applied" (.boolean reading.toneSandhi)]

/-- The reading that fields write. -/
def ofFields? (fields : Json.Fields) : Option Reading := do
  let table := Json.list? (Json.list? Json.text?)
  return {
    primary := ← fields.required? Json.text? "primary_reading" 0
    numeric := ← fields.required? Json.text? "primary_numeric" 1
    candidates := ← fields.required? table "all_readings_by_character" 2
    numericCandidates := ← fields.required? table "numeric_reading_all" 3
    tone := ← fields.optional? (Json.nullable? Json.byte?) none "tone" 4
    lexicalTone := ← fields.optional? (Json.nullable? Json.byte?) none "original_tone" 5
    toneSandhi := ← fields.required? Json.boolean? "tone_sandhi_applied" 6 }

theorem ofFields?_writeFields (reading : Reading) :
    ofFields? (.named reading.writeFields) = some reading := by
  simp [ofFields?, writeFields, Json.Fields.required?, Json.Fields.optional?, Json.field,
    List.lookup_cons, Json.list?_array_map Json.list?_texts]

end Reading

namespace Details

/-- Details in writing: their kind, and the fields of a reading. -/
def write : Details → Json
  | generic => .object [Json.field "kind" (.string "generic".toList)]
  | chinese reading => .object (Json.field "kind" (.string "zh".toList) :: reading.writeFields)

/-- The details of a kind, given as fields. -/
def ofKind? (kind : Json) (fields : Json) : Option Details := do
  let kind ← kind.text?
  if kind = "generic".toList then (fields.fields? 0).map fun _ => generic
  else if kind = "zh".toList then
    ((fields.fields? 7).bind Reading.ofFields?).map chinese
  else none

/-- The details that a value writes: an object with its kind, or an array that begins with it. -/
def read? : Json → Option Details
  | .object entries => do ofKind? (← entries.lookup "kind".toList) (.object entries)
  | .array (kind :: items) => ofKind? kind (.array items)
  | _ => none

end Details

namespace Token

/-- A token in writing. -/
def write (token : Token) : Json := .object <|
  [Json.field "surface" (.string token.surface), Json.field "is_lexical" (.boolean token.isLexical),
    Json.field "romanization" (.string token.romanization)] ++
  (token.tag.map fun tag => Json.field "pos" (.string tag)).toList ++
  [Json.field "ext" token.details.write]

/-- The token that a value writes. -/
def read? (value : Json) : Option Token := do
  let fields ← value.fields? 5
  return {
    surface := ← fields.required? Json.text? "surface" 0
    isLexical := ← fields.required? Json.boolean? "is_lexical" 1
    romanization := ← fields.required? Json.text? "romanization" 2
    tag := ← fields.optional? (Json.nullable? Json.text?) none "pos" 3
    details := ← fields.optional? Details.read? .generic "ext" 4 }

end Token

namespace Batch

/-- A batch in writing. -/
def write (batch : Batch) : Json := .object <|
  (if batch.raw.isEmpty then [] else [Json.field "raw" (.texts batch.raw)]) ++
  [Json.field "tokens" (.array (batch.tokens.map Token.write))]

/-- The batch that a value writes. -/
def read? (value : Json) : Option Batch := do
  let fields ← value.fields? 2
  return {
    raw := ← fields.optional? (Json.list? Json.text?) [] "raw" 0
    tokens := ← fields.required? (Json.list? Token.read?) "tokens" 1 }

end Batch

end Hanyu
