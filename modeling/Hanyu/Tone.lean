import Hanyu.Text

/-!
# Tones

The four tones of Mandarin and the neutral tone, the digits that stand for them, and the vowels
that carry their marks.

* `ofDigit?_eq_some_iff`: a tone is read back from its digit, and from no other character.
* `mark_neutral`: the neutral tone has no mark.
-/

namespace Hanyu

/-- A tone of Mandarin. -/
inductive Tone where
  | first
  | second
  | third
  | fourth
  | neutral
deriving DecidableEq, Repr

namespace Tone

/-- The number of a tone, from 1 to 5. -/
def number : Tone → UInt8
  | first => 1
  | second => 2
  | third => 3
  | fourth => 4
  | neutral => 5

/-- The digit that stands for a tone. -/
def digit : Tone → Char
  | first => '1'
  | second => '2'
  | third => '3'
  | fourth => '4'
  | neutral => '5'

/-- The tone that a digit stands for. -/
def ofDigit? : Char → Option Tone
  | '1' => some first
  | '2' => some second
  | '3' => some third
  | '4' => some fourth
  | '5' => some neutral
  | _ => none

@[simp] theorem ofDigit?_digit (t : Tone) : ofDigit? t.digit = some t := by cases t <;> rfl

theorem ofDigit?_eq_some_iff {c : Char} {t : Tone} : ofDigit? c = some t ↔ c = t.digit := by
  refine ⟨fun h => ?_, fun h => h ▸ ofDigit?_digit t⟩
  unfold ofDigit? at h
  split at h <;> cases h <;> rfl

theorem digit_injective {t t' : Tone} (h : t.digit = t'.digit) : t = t' := by
  rw [← Option.some_inj, ← ofDigit?_digit t, h, ofDigit?_digit]

theorem isDigit_digit (t : Tone) : t.digit.isDigit = true := by cases t <;> rfl

theorem ofDigit?_of_not_isDigit {c : Char} (h : c.isDigit = false) : ofDigit? c = none := by
  unfold ofDigit?
  split <;> first | rfl | exact absurd h (by decide)

/-- The character at the place of a tone in a row of four marked vowels. -/
def pick (t : Tone) (unmarked a b c d : Char) : Char :=
  match t with
  | first => a
  | second => b
  | third => c
  | fourth => d
  | neutral => unmarked

/-- The vowel with the mark of a tone; a character that is no vowel stays as it is. -/
def mark (t : Tone) : Char → Char
  | 'a' => t.pick 'a' 'ā' 'á' 'ǎ' 'à'
  | 'e' => t.pick 'e' 'ē' 'é' 'ě' 'è'
  | 'i' => t.pick 'i' 'ī' 'í' 'ǐ' 'ì'
  | 'o' => t.pick 'o' 'ō' 'ó' 'ǒ' 'ò'
  | 'u' => t.pick 'u' 'ū' 'ú' 'ǔ' 'ù'
  | 'ü' => t.pick 'ü' 'ǖ' 'ǘ' 'ǚ' 'ǜ'
  | c => c

end Tone

/-- Whether a character is a vowel that can carry a tone mark. -/
def isVowel (c : Char) : Bool := ['a', 'e', 'i', 'o', 'u', 'ü'].contains c

namespace Tone

theorem mark_neutral (c : Char) : neutral.mark c = c := by
  unfold mark; split <;> rfl

theorem mark_of_not_isVowel {c : Char} (h : isVowel c = false) (t : Tone) : t.mark c = c := by
  unfold mark; split <;> first | exact absurd h (by decide) | rfl

end Tone

end Hanyu
