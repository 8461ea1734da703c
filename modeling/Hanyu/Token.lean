import Hanyu.Fault
import Hanyu.Script

/-!
# Tokens

A token is a span of the source text with what the stages found out about it. A batch is what the
stages hand on: raw chunks that are still to be tokenized, and tokens.

* `Batch.surface_append`: the source text of a batch is put together token by token.
* `Token.surface_withReading`: annotating a token leaves its span alone.
-/

namespace Hanyu

/-- What is known about the pronunciation of a Chinese token. -/
structure Reading where
  /-- The chosen reading in the style asked for, syllables separated by spaces. -/
  primary : Text
  /-- The chosen reading with tone digits. -/
  numeric : Text
  /-- For each character the candidates in the style asked for, the most frequent first. -/
  candidates : List (List Text)
  /-- For each character the candidates with tone digits. -/
  numericCandidates : List (List Text)
  /-- The tone of a single character in its place. -/
  tone : Option UInt8
  /-- The tone before neighbours change it. -/
  lexicalTone : Option UInt8
  /-- Whether neighbours have changed the tone. -/
  toneSandhi : Bool
deriving DecidableEq, Repr

/-- The reading of a token nobody has pronounced yet. -/
def Reading.unknown : Reading := ⟨[], [], [], [], none, none, false⟩

/-- What a token carries for its language. -/
inductive Details where
  /-- Nothing. -/
  | generic
  | chinese (reading : Reading)
deriving DecidableEq, Repr

/-- A span of the source text. -/
structure Token where
  surface : Text
  /-- Whether the span is a word, and not blanks or punctuation. -/
  isLexical : Bool
  /-- The chosen output, empty until a transliterator has run. -/
  romanization : Text
  /-- The part-of-speech tag. -/
  tag : Option Text
  details : Details
deriving DecidableEq, Repr

namespace Token

/-- A word as a tokenizer finds it. -/
def lexical (surface : Text) : Token := ⟨surface, true, [], none, .generic⟩

/-- What stands between words. -/
def filler (surface : Text) : Token := ⟨surface, false, [], none, .generic⟩

/-- The reading of a Chinese token. -/
def reading? (token : Token) : Option Reading :=
  match token.details with
  | .chinese reading => some reading
  | .generic => none

/-- The reading of a token that has to be Chinese. -/
def chineseReading (token : Token) : Except Fault Reading :=
  match token.details with
  | .chinese reading => .ok reading
  | .generic => .error (.unsupportedToken ['z', 'h'])

/-- The token with its reading, which it has to have, changed. -/
def mapReading (f : Reading → Reading) (token : Token) : Except Fault Token :=
  token.chineseReading.map fun reading => { token with details := .chinese (f reading) }

/-- The token with a part-of-speech tag. -/
def tagged (token : Token) (tag : Text) : Token := { token with tag := some tag }

/-- The token as its own romanization. -/
def romanizedAsIs (token : Token) : Token := { token with romanization := token.surface }

/-- The token with a reading, romanized by it. -/
def withReading (token : Token) (reading : Reading) : Token :=
  { token with romanization := reading.primary, details := .chinese reading }

@[simp] theorem surface_withReading (token : Token) (reading : Reading) :
    (token.withReading reading).surface = token.surface := rfl

@[simp] theorem surface_romanizedAsIs (token : Token) :
    token.romanizedAsIs.surface = token.surface := rfl

end Token

/-- What the stages of a run hand on. -/
structure Batch where
  /-- Chunks of text that no tokenizer has seen. -/
  raw : List Text
  tokens : List Token
deriving DecidableEq, Repr

namespace Batch

/-- The batch of nothing. -/
def empty : Batch := ⟨[], []⟩

/-- Chunks that are still to be tokenized. -/
def ofChunks (chunks : List Text) : Batch := ⟨chunks, []⟩

/-- Tokens without raw chunks. -/
def ofTokens (tokens : List Token) : Batch := ⟨[], tokens⟩

/-- The source text of the tokens. -/
def surface (batch : Batch) : Text := batch.tokens.flatMap Token.surface

/-- The lexical tokens. -/
def lexicalTokens (batch : Batch) : List Token := batch.tokens.filter Token.isLexical

/-- The romanizations of the lexical tokens with a separator between them. -/
def romanized (batch : Batch) (separator : Text) : Text :=
  Text.join separator (batch.lexicalTokens.map Token.romanization)

theorem surface_append (raw : List Text) (a b : List Token) :
    surface ⟨raw, a ++ b⟩ = surface ⟨raw, a⟩ ++ surface ⟨raw, b⟩ := by
  simp [surface]

end Batch

end Hanyu
