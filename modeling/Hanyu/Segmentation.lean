import Hanyu.Token

/-!
# Segmentations

A segmenter names the words of a chunk in their order, but may leave out what stands between them.
`weave` finds the words in the chunk again and fills every gap with filler, so that no character is
lost.

* `surface_weave`: the tokens of a chunk put together are the chunk.
* `surface_assignTags`: tagging leaves the spans alone.
-/

namespace Hanyu

/-- A segmenter's answer for a chunk. -/
structure Segmentation where
  /-- The words, in the order of the text. -/
  words : List Text
  /-- A part-of-speech tag for each lexical word. -/
  tags : List Text
deriving DecidableEq, Repr

namespace Segmentation

/-- The segmentation without words. -/
def empty : Segmentation := ⟨[], []⟩

/-- A word found in a text. -/
structure Match where
  /-- The text before the word. -/
  gap : Text
  word : Text
  /-- The text after the word. -/
  rest : Text
  /-- The words that are still to be found. -/
  later : List Text

/-- The first of the words with which the text begins. -/
def matchHere? (text : Text) : List Text → Option Match
  | [] => none
  | word :: later =>
    match text.rest? word with
    | some rest => some ⟨[], word, rest, later⟩
    | none => matchHere? text later

/-- Where to go on with a text and the words to be found in it: at the first word with which the
text begins, or else at the next occurrence of the first word. -/
def nextMatch? (text : Text) (word : Text) (later : List Text) : Option Match :=
  match matchHere? text (word :: later) with
  | some found => some found
  | none => (text.cut? word).map fun (gap, rest) => ⟨gap, word, rest, later⟩

theorem length_later_le_of_matchHere? {text : Text} {words : List Text} {found : Match}
    (h : matchHere? text words = some found) : found.later.length < words.length := by
  induction words with
  | nil => simp [matchHere?] at h
  | cons word later ih =>
    rw [matchHere?] at h
    split at h
    · cases h; simp
    · have := ih h; simp only [List.length_cons]; omega

theorem length_later_le_of_nextMatch? {text word : Text} {later : List Text} {found : Match}
    (h : nextMatch? text word later = some found) : found.later.length < later.length + 1 := by
  unfold nextMatch? at h
  split at h
  · rename_i m hm
    cases h
    exact length_later_le_of_matchHere? hm
  · obtain ⟨⟨gap, rest⟩, -, rfl⟩ := Option.map_eq_some_iff.mp h
    simp

/-- A gap as filler, or no token when nothing is in it. -/
def fillGap (gap : Text) : List Token := if gap = [] then [] else [Token.filler gap]

/-- The tokens of a gap that has been read, and of the text after it. -/
def weaveFrom (gap text : Text) (words : List Text) : List Token :=
  match words with
  | [] => fillGap (gap ++ text)
  | word :: later =>
    match h : nextMatch? text word later with
    | none => weaveFrom gap text later
    | some found =>
      have := length_later_le_of_nextMatch? h
      if found.word.isLexical then
        fillGap (gap ++ found.gap) ++
          Token.lexical found.word :: weaveFrom [] found.rest found.later
      else weaveFrom (gap ++ found.gap ++ found.word) found.rest found.later
termination_by words.length

/-- The tokens of a chunk, given its words. Where the text does not go on with the next word but
with a later one, the words before that one are dropped; otherwise the text up to the next
occurrence of the word is filler. A word that does not occur any more is dropped, and a word
without a letter, a numeral or an ideograph is filler. -/
def weave (chunk : Text) (words : List Text) : List Token :=
  weaveFrom [] chunk (words.filter fun word => !word.isEmpty)

/-- The tokens with the tags given to the lexical ones in order. -/
def assignTags : List Token → List Text → List Token
  | [], _ => []
  | tokens, [] => tokens
  | token :: tokens, tag :: tags =>
    if token.isLexical then { token with tag := some tag } :: assignTags tokens tags
    else token :: assignTags tokens (tag :: tags)

/-- The tokens with their tags, of which there must be as many as lexical tokens. -/
def attachTags (tokens : List Token) (tags : List Text) : Except Fault (List Token) :=
  let lexical := tokens.countP Token.isLexical
  if tags.length = lexical then .ok (assignTags tokens tags)
  else .error (.consistency (.tags tags.length lexical))

theorem append_of_matchHere? {text : Text} {words : List Text} {found : Match}
    (h : matchHere? text words = some found) : found.gap ++ found.word ++ found.rest = text := by
  induction words with
  | nil => simp [matchHere?] at h
  | cons word later ih =>
    rw [matchHere?] at h
    split at h
    · rename_i rest hr
      cases h
      simp [Text.rest?_eq_some_iff.mp hr]
    · exact ih h

theorem append_of_nextMatch? {text word : Text} {later : List Text} {found : Match}
    (h : nextMatch? text word later = some found) :
    found.gap ++ found.word ++ found.rest = text := by
  unfold nextMatch? at h
  split at h
  · rename_i m hm
    cases h
    exact append_of_matchHere? hm
  · obtain ⟨⟨gap, rest⟩, hc, rfl⟩ := Option.map_eq_some_iff.mp h
    exact (Text.cut?_eq_some hc).symm

@[simp] theorem surface_fillGap (gap : Text) : (fillGap gap).flatMap Token.surface = gap := by
  unfold fillGap; split <;> simp [Token.filler, *]

theorem surface_weaveFrom (gap text : Text) (words : List Text) :
    (weaveFrom gap text words).flatMap Token.surface = gap ++ text := by
  fun_induction weaveFrom gap text words with
  | case1 => simp
  | case2 gap text word later h ih => exact ih
  | case3 gap text word later found h hlt hl ih =>
    rw [← append_of_nextMatch? h]
    simp [ih, Token.lexical]
  | case4 gap text word later found h hlt hl ih =>
    rw [ih, ← append_of_nextMatch? h]
    simp

theorem surface_weave (chunk : Text) (words : List Text) :
    (weave chunk words).flatMap Token.surface = chunk := by
  simp [weave, surface_weaveFrom]

theorem surface_assignTags (tokens : List Token) (tags : List Text) :
    (assignTags tokens tags).flatMap Token.surface = tokens.flatMap Token.surface := by
  fun_induction assignTags tokens tags <;> simp_all

end Segmentation

end Hanyu
