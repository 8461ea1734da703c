import Hanyu.Lexicon
import Hanyu.Session

/-!
# Pronunciation

A pronouncer is asked for the readings of a word twice: in the style to be shown, and with tone
digits. Of the readings of a character the first one is chosen, without a look at the characters
around it. Only the tone of a single character is told, and it is never changed by its neighbours.

* `ofTables_eq_ok`: what an accepted reading is made of.
* `annotate_of_not_isPronounceable`: other tokens are their own romanization, and nobody is asked.
* `run_annotateInPlace`: a token is written to only when its reading is known.
-/

namespace Hanyu

/-- A source of readings: for each character of a text its candidates in a style, the most frequent
first, all of them or only that one. -/
abbrev Pronouncer (σ : Type) := Text → Style → Bool → Callback σ (Except Fault (List (List Text)))

/-- The tone that a syllable ends with in digits; a text with blanks is no syllable. -/
def Tone.ofSyllable? (numeric : Text) : Option Tone :=
  if numeric.any Unicode.isBlank then none else numeric.getLast?.bind Tone.ofDigit?

namespace Reading

/-- The first candidate of each list, with a space between each two. A list without candidates
leaves an empty place. -/
def joinFirsts (candidates : List (List Text)) : Text :=
  Text.join [' '] (candidates.map fun list => list.headD [])

/-- The tone of a surface with a numeric reading, which only a single character has. -/
def toneOf (surface numeric : Text) : Option UInt8 :=
  if surface.length = 1 then (Tone.ofSyllable? numeric).map Tone.number else none

/-- The reading of a surface, out of its candidates in a style and with tone digits. Both tables
need one list for each character. -/
def ofTables (surface : Text) (style : Style) (display numeric : List (List Text)) :
    Except Fault Reading :=
  if display.length ≠ numeric.length then
    .error (.consistency (.tables surface display.length style numeric.length))
  else if display.length ≠ surface.length then
    .error (.consistency (.lists surface display.length surface.length))
  else
    let tone := toneOf surface (joinFirsts numeric)
    .ok ⟨joinFirsts display, joinFirsts numeric, display, numeric, tone, tone, false⟩

theorem ofTables_eq_ok {surface : Text} {style : Style} {display numeric : List (List Text)}
    {reading : Reading} (h : ofTables surface style display numeric = .ok reading) :
    display.length = surface.length ∧ numeric.length = surface.length ∧
      reading.candidates = display ∧ reading.numericCandidates = numeric ∧
      reading.primary = joinFirsts display ∧ reading.numeric = joinFirsts numeric := by
  unfold ofTables at h
  split at h
  · cases h
  · split at h
    · cases h
    · cases h
      refine ⟨?_, ?_, rfl, rfl, rfl, rfl⟩ <;> omega

end Reading

/-- Whether a token is a word in Han ideographs that a Chinese tokenizer has made. -/
def Token.isPronounceable (token : Token) : Bool :=
  token.isLexical && token.surface.isHanText && token.reading?.isSome

namespace Pronouncer

variable {σ : Type}

/-- The pronouncer that looks characters up in a lexicon. -/
def ofLexicon (lexicon : Lexicon) : Pronouncer σ := fun text style all =>
  .answer (.ok (lexicon.pronounce text style all))

/-- The reading of a surface in a style. -/
def reading (pronouncer : Pronouncer σ) (style : Style) (surface : Text) :
    Attempt Fault (Session σ) Reading := do
  let display ← Session.consult (pronouncer surface style true)
  let numeric ← Session.consult (pronouncer surface .tone3 true)
  .ofExcept (Reading.ofTables surface style display numeric)

/-- A token with its reading in a style. A token that is not to be pronounced is its own
romanization. -/
def annotate (pronouncer : Pronouncer σ) (style : Style) (token : Token) :
    Attempt Fault (Session σ) Token :=
  if token.isPronounceable then do
    return token.withReading (← pronouncer.reading style token.surface)
  else return token.romanizedAsIs

theorem annotate_of_not_isPronounceable {pronouncer : Pronouncer σ} {style : Style} {token : Token}
    (h : token.isPronounceable = false) (session : Session σ) :
    (pronouncer.annotate style token).run session = (.ok token.romanizedAsIs, session) := by
  simp only [annotate, h]
  rfl

/-- Writes a reading into the token that a state holds, the romanization first. -/
def store (reading : Reading) : Attempt Fault (Token × Session σ) Unit := do
  Attempt.change fun (token, session) => ({ token with romanization := reading.primary }, session)
  Attempt.change fun (token, session) => ({ token with details := .chinese reading }, session)

/-- Annotates the token that a state holds, in its place. -/
def annotateInPlace (pronouncer : Pronouncer σ) (style : Style) :
    Attempt Fault (Token × Session σ) Unit := fun (token, session) =>
  if token.isPronounceable then
    (Attempt.onSecond (pronouncer.reading style token.surface) >>= store).run (token, session)
  else (.ok (), token.romanizedAsIs, session)

/-- In its place a token becomes what it is annotated to, and stays as it is when that fails. -/
theorem run_annotateInPlace (pronouncer : Pronouncer σ) (style : Style) (token : Token)
    (session : Session σ) :
    (pronouncer.annotateInPlace style).run (token, session) =
      match (pronouncer.annotate style token).run session with
      | (.ok annotated, session) => (.ok (), annotated, session)
      | (.error fault, session) => (.error fault, token, session) := by
  change pronouncer.annotateInPlace style (token, session) = _
  rw [annotateInPlace]
  by_cases h : token.isPronounceable = true
  · rw [if_pos h, annotate, if_pos h]
    cases hread : (pronouncer.reading style token.surface).run session with
    | mk result left =>
      have hsecond : (Attempt.onSecond (pronouncer.reading style token.surface)).run
          (token, session) = (result, token, left) := by
        change pronouncer.reading style token.surface session = _ at hread
        simp only [Attempt.run, Attempt.onSecond, hread]
      cases result with
      | ok reading =>
        rw [Attempt.run_bind_ok hsecond, Attempt.run_bind_ok hread]
        rfl
      | error fault => rw [Attempt.run_bind_error hsecond, Attempt.run_bind_error hread]
  · rw [if_neg h, annotate_of_not_isPronounceable (by simpa using h)]

end Pronouncer

end Hanyu
