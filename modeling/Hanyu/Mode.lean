import Hanyu.Text

/-!
# Kinds of stages and modes of a run

A stage either turns raw text into tokens or annotates tokens. A mode says which of the two kinds
of stages a run goes through.

* `Mode.parse?_name`: every mode is found by its name.
* `Mode.selects_combined`: the combined mode goes through every stage.
-/

namespace Hanyu

/-- What a stage does. -/
inductive Kind where
  /-- Turns raw chunks into tokens. -/
  | tokenizer
  /-- Annotates tokens. -/
  | transliterator
deriving DecidableEq, Repr

namespace Kind

/-- The name of a kind of stages. -/
def name : Kind → String
  | tokenizer => "tokenizer"
  | transliterator => "transliterator"

/-- The name of a kind at the beginning of a word. -/
def title : Kind → String
  | tokenizer => "Tokenizer"
  | transliterator => "Transliterator"

/-- The place of a kind in listings, tokenizers first. -/
def rank : Kind → Nat
  | tokenizer => 0
  | transliterator => 1

end Kind

/-- Which stages a run goes through. -/
inductive Mode where
  /-- The tokenizers: raw chunks in, tokens out. -/
  | tokenize
  /-- The transliterators, over tokens. -/
  | transliterate
  /-- All stages, in order. -/
  | combined
deriving DecidableEq, Repr

namespace Mode

/-- Every mode, in the order of their listing. -/
def all : List Mode := [tokenize, transliterate, combined]

/-- The name of a mode in options and messages. -/
def name : Mode → String
  | tokenize => "tokenize"
  | transliterate => "transliterate"
  | combined => "combined"

/-- The mode of a name, in any case of ASCII letters and between any blanks. -/
def parse? (name : Text) : Option Mode :=
  all.find? fun mode => mode.name.toList == name.trim.foldCase

theorem parse?_name (mode : Mode) : parse? mode.name.toList = some mode := by
  cases mode <;> decide +kernel

/-- Whether a run in this mode goes through the stages of a kind. -/
def selects : Mode → Kind → Bool
  | tokenize, kind => kind == .tokenizer
  | transliterate, kind => kind == .transliterator
  | combined, _ => true

@[simp] theorem selects_combined (kind : Kind) : combined.selects kind = true := rfl

end Mode

end Hanyu
