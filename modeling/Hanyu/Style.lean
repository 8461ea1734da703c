import Hanyu.Syllable

/-!
# Styles of pinyin

Ten ways to write a syllable: its letters, its initial or its final, without the tone, with a tone
mark, with a digit after the marked vowel, or with a digit at the end.

* `parse?_name`: every style is found by its name.
* `mem_all`: the list of styles is complete.
-/

namespace Hanyu

/-- A way to write a syllable. -/
inductive Style where
  /-- The letters (`zhong`). -/
  | normal
  /-- The letters with a tone mark (`zhōng`). -/
  | tone
  /-- The letters with a digit after the marked vowel (`zho1ng`). -/
  | tone2
  /-- The letters with a digit at the end (`zhong1`). -/
  | tone3
  /-- The initial (`zh`). -/
  | initials
  /-- The first letter (`z`). -/
  | firstLetter
  /-- The final (`ong`). -/
  | finals
  /-- The final with a tone mark (`ōng`). -/
  | finalsTone
  /-- The final with a digit after the marked vowel (`o1ng`). -/
  | finalsTone2
  /-- The final with a digit at the end (`ong1`). -/
  | finalsTone3
deriving DecidableEq, Repr

namespace Style

/-- Every style, in the order of their listing. -/
def all : List Style :=
  [normal, tone, tone2, tone3, initials, firstLetter, finals, finalsTone, finalsTone2, finalsTone3]

theorem mem_all (style : Style) : style ∈ all := by cases style <;> decide

/-- The name of a style in options and messages. -/
def name : Style → String
  | normal => "normal"
  | tone => "tone"
  | tone2 => "tone2"
  | tone3 => "tone3"
  | initials => "initials"
  | firstLetter => "first_letter"
  | finals => "finals"
  | finalsTone => "finals_tone"
  | finalsTone2 => "finals_tone2"
  | finalsTone3 => "finals_tone3"

/-- The style of a name, in any case of ASCII letters, with `-` and the space read as `_`. -/
def parse? (name : Text) : Option Style :=
  let key := name.trim.foldCase.map fun c => if c = '-' || c = ' ' then '_' else c
  all.find? fun style => style.name.toList == key

/-- The style of a name, or tone marks when no style has that name. -/
def parse (name : Text) : Style := (parse? name).getD tone

theorem parse?_name (style : Style) : parse? style.name.toList = some style := by
  cases style <;> decide +kernel

/-- The letters with the mark of a tone on their toned vowel. -/
def withMark (letters : Text) : Option Tone → Text
  | none => letters
  | some t =>
    match Syllable.tonedVowel? letters with
    | some a => a.before ++ t.mark a.char :: a.after
    | none => letters

/-- The letters with the digit of a tone after their toned vowel, or at the end when they have no
vowel; the neutral tone has no digit. -/
def withInnerDigit (letters : Text) : Option Tone → Text
  | none => letters
  | some .neutral => letters
  | some t =>
    match Syllable.tonedVowel? letters with
    | some a => a.before ++ a.char :: t.digit :: a.after
    | none => letters ++ [t.digit]

/-- The letters with the digit of a tone at the end. -/
def withFinalDigit (letters : Text) : Option Tone → Text
  | none => letters
  | some t => letters ++ [t.digit]

/-- A syllable in a style. -/
def write (style : Style) (syllable : Syllable) : Text :=
  let final := Syllable.final syllable.letters
  match style with
  | normal => syllable.letters
  | tone => withMark syllable.letters syllable.tone
  | tone2 => withInnerDigit syllable.letters syllable.tone
  | tone3 => withFinalDigit syllable.letters syllable.tone
  | initials => Syllable.initial syllable.letters
  | firstLetter => syllable.letters.take 1
  | finals => final
  | finalsTone => withMark final syllable.tone
  | finalsTone2 => withInnerDigit final syllable.tone
  | finalsTone3 => withFinalDigit final syllable.tone

/-- The syllable that a text writes, in a style. -/
def render (style : Style) (text : Text) : Text := style.write (Syllable.ofText text)

end Style

end Hanyu
