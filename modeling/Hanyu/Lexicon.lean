import Hanyu.Segmentation
import Hanyu.Sorting

/-!
# Lexicons

A lexicon has words with their part-of-speech tags, and characters with their readings, the most
frequent first. It segments a text by the longest words, and pronounces it character by character.

* `Lexicon.length_le_longest`: no word is longer than the length the lexicon remembers.
* `Lexicon.longestMatch?_eq_some`: a match is a word of the lexicon, and the text goes on after it.
-/

namespace Hanyu

/-- Words with their tags, and characters with their readings. -/
structure Lexicon where
  words : List (Text × Text)
  readings : List (Char × List Text)
  /-- The number of characters of the longest word. -/
  longest : Nat
deriving DecidableEq, Repr

namespace Lexicon

/-- The lexicon of nothing. -/
def empty : Lexicon := ⟨[], [], 0⟩

/-- The number of characters of the longest of some words. -/
def longestOf (words : List (Text × Text)) : Nat :=
  (words.map fun word => word.1.length).foldr max 0

/-- What a lexicon in writing can be refused for. -/
inductive Refusal where
  /-- It has neither words nor readings. -/
  | empty
  /-- Readings are given for something else than one character. -/
  | invalidKey (key : Text)
  /-- One of the readings of a character is blank. -/
  | emptyReading (key : Text)
deriving DecidableEq, Repr

/-- The wording of a refusal. -/
def Refusal.message : Refusal → String
  | empty => "lexicon has no words and no readings"
  | invalidKey key => "reading key must be a single character: " ++ String.ofList key.quoted
  | emptyReading key => "empty reading for " ++ String.ofList key.quoted

/-- The readings of one character, out of an entry of a table of readings. -/
def readingsOfEntry (entry : Text × List Text) : Except Refusal (Char × List Text) :=
  match entry.1 with
  | [c] => if entry.2.any Text.isBlank then .error (.emptyReading [c]) else .ok (c, entry.2)
  | key => .error (.invalidKey key)

/-- The lexicon of a table of words and a table of readings. Entries of the latter are looked at in
the order of their keys; words without characters are left out. -/
def ofTables (words : List (Text × Text)) (readings : List (Text × List Text)) :
    Except Refusal Lexicon := do
  if words.isEmpty && readings.isEmpty then throw .empty
  let readings ← (sortBy (fun a b => Text.notAfter a.1 b.1) readings).mapM readingsOfEntry
  let words := words.filter fun word => !word.1.isEmpty
  return ⟨words, readings, longestOf words⟩

/-- The tag of a word. -/
def tag? (lexicon : Lexicon) (word : Text) : Option Text := lexicon.words.lookup word

/-- Whether a word is in the lexicon. -/
def hasWord (lexicon : Lexicon) (word : Text) : Bool := (lexicon.tag? word).isSome

/-- The readings of a character, none when the lexicon does not know it. -/
def readingsOf (lexicon : Lexicon) (c : Char) : List Text := (lexicon.readings.lookup c).getD []

/-- The tag of a single character that no word covers. -/
def unknownTag : Text := ['x']

/-- The tag of a run of ASCII letters that no word covers. -/
def latinTag : Text := ['e', 'n', 'g']

/-- The tag of a run of ASCII digits that no word covers. -/
def numeralTag : Text := ['m']

/-- A word of the lexicon with which a text begins, its tag and the text after it. -/
structure Hit where
  word : Text
  tag : Text
  rest : Text
deriving DecidableEq, Repr

/-- The longest word of at most so many characters with which a text begins. -/
def longestMatch? (lexicon : Lexicon) (text : Text) : Nat → Option Hit
  | 0 => none
  | n + 1 =>
    match lexicon.tag? (text.take (n + 1)) with
    | some tag => some ⟨text.take (n + 1), tag, text.drop (n + 1)⟩
    | none => longestMatch? lexicon text n

/-- Whether two characters belong to one run: two ASCII letters, or two ASCII digits. -/
def sameRun (a b : Char) : Bool := b.isAlphanum && a.isDigit == b.isDigit

/-- The first piece of a text that begins with `c` and is no word of the lexicon, and what follows
it: a run of ASCII letters or of ASCII digits, another alphanumeric character, or nothing to
report. -/
def unlistedPiece (c : Char) (rest : Text) : Option (Text × Text) × Text :=
  if c.isAlphanum then
    let tag := if c.isDigit then numeralTag else latinTag
    (some (c :: rest.takeWhile (sameRun c), tag), rest.dropWhile (sameRun c))
  else if Unicode.isAlphanumeric c then (some ([c], unknownTag), rest)
  else (none, rest)

/-- A piece of a text put in front of a segmentation, with its tag when it is lexical. -/
def report (word tag : Text) (segmentation : Segmentation) : Segmentation :=
  ⟨word :: segmentation.words,
    if word.isLexical then tag :: segmentation.tags else segmentation.tags⟩

theorem length_rest_of_longestMatch? {lexicon : Lexicon} {text : Text} {n : Nat} {hit : Hit}
    (h : lexicon.longestMatch? text n = some hit) (ht : text ≠ []) :
    hit.rest.length < text.length := by
  induction n with
  | zero => simp [longestMatch?] at h
  | succ n ih =>
    rw [longestMatch?] at h
    split at h
    · cases h
      have : 0 < text.length := List.length_pos_iff.mpr ht
      simp only [List.length_drop]; omega
    · exact ih h

theorem length_unlistedPiece (c : Char) (rest : Text) :
    (unlistedPiece c rest).2.length < (c :: rest).length := by
  unfold unlistedPiece
  split
  · have := (List.dropWhile_suffix (sameRun c) (l := rest)).length_le
    simp only [List.length_cons]; omega
  · split <;> simp

/-- The words of a text: at each place the longest word of the lexicon, else a run of ASCII letters
or of ASCII digits, else a single alphanumeric character. -/
def segment (lexicon : Lexicon) (text : Text) : Segmentation :=
  match text with
  | [] => .empty
  | c :: rest =>
    match h : lexicon.longestMatch? (c :: rest) (min lexicon.longest (c :: rest).length) with
    | some hit =>
      have := length_rest_of_longestMatch? h (List.cons_ne_nil c rest)
      report hit.word hit.tag (segment lexicon hit.rest)
    | none =>
      have := length_unlistedPiece c rest
      match (unlistedPiece c rest).1 with
      | some (word, tag) => report word tag (segment lexicon (unlistedPiece c rest).2)
      | none => segment lexicon (unlistedPiece c rest).2
termination_by text.length
decreasing_by all_goals assumption

/-- For each character of a text its readings in a style, all of them or only the most frequent
one. -/
def pronounce (lexicon : Lexicon) (text : Text) (style : Style) (all : Bool) : List (List Text) :=
  text.map fun c =>
    let stored := lexicon.readingsOf c
    (if all then stored else stored.take 1).map style.render

theorem length_le_longest {words : List (Text × Text)} {word : Text × Text} (h : word ∈ words) :
    word.1.length ≤ longestOf words := by
  induction words with
  | nil => simp at h
  | cons first rest ih =>
    simp only [longestOf, List.map_cons, List.foldr_cons]
    rcases List.mem_cons.mp h with rfl | h
    · exact Nat.le_max_left _ _
    · exact Nat.le_trans (ih h) (Nat.le_max_right _ _)

theorem longestMatch?_eq_some {lexicon : Lexicon} {text : Text} {n : Nat} {hit : Hit}
    (h : lexicon.longestMatch? text n = some hit) :
    lexicon.tag? hit.word = some hit.tag ∧ hit.word ++ hit.rest = text := by
  induction n with
  | zero => simp [longestMatch?] at h
  | succ n ih =>
    rw [longestMatch?] at h
    split at h
    · rename_i tag ht
      cases h
      exact ⟨ht, List.take_append_drop _ _⟩
    · exact ih h

end Lexicon

/-- A segmenter that works with a lexicon, once it is loaded. -/
structure LexiconSegmenter where
  lexicon : Lexicon
  isLoaded : Bool
deriving DecidableEq, Repr

namespace LexiconSegmenter

/-- A segmenter that is not loaded yet. -/
def new (lexicon : Lexicon) : LexiconSegmenter := ⟨lexicon, false⟩

/-- The segmenter ready for use, which takes a lexicon with words. -/
def load (segmenter : LexiconSegmenter) : Except Fault LexiconSegmenter :=
  if segmenter.lexicon.words.isEmpty then .error (.initialization .noWords)
  else .ok { segmenter with isLoaded := true }

/-- The segmenter put out of use. -/
def unload (segmenter : LexiconSegmenter) : LexiconSegmenter := { segmenter with isLoaded := false }

/-- The words of a chunk, when the segmenter is loaded. -/
def segment (segmenter : LexiconSegmenter) (chunk : Text) : Except Fault Segmentation :=
  if segmenter.isLoaded then .ok (segmenter.lexicon.segment chunk)
  else .error (.oracle .usedBeforeLoad)

end LexiconSegmenter

end Hanyu
