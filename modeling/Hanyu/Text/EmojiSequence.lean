import Hanyu.Text.Ligature
import Hanyu.Unicode.Emoji

/-!
# Emoji sequences

Several characters can be drawn as one emoji: a person with a skin tone, a flag of two letters or
of tags, a key, and emoji that a joiner ties together. As with ligatures a text is measured from
its end: an `EmojiTail` says which part of a sequence stands at its front, and `extend?` what a
further character adds.

* `owed_le_of_extend?`: a sequence takes back only columns that were counted for its parts.
-/

namespace Hanyu.Text

/-- The end of an emoji sequence at the front of a text. -/
inductive EmojiTail where
  /-- An emoji that has its whole width. -/
  | whole
  /-- A skin tone, or an emoji with a skin tone to come. -/
  | modifier
  /-- One letter of a flag. -/
  | flagLetter
  /-- Several letters of flags. -/
  | flagLetters
  /-- A joiner before an emoji. -/
  | joined
  /-- The mark of a key, joined. -/
  | joinedKey
  /-- One letter of a flag, joined. -/
  | joinedFlagLetter
  /-- Two letters of a flag, or several pairs of letters, joined. -/
  | joinedFlag
  /-- An odd number of letters of flags, joined. -/
  | joinedFlags
  /-- The end of a flag of tags with so many letters, joined. -/
  | tagLetters (count : Nat)
  /-- The end of a flag of tags that begins with so many digits, joined. -/
  | tagDigits (count : Nat)
  deriving DecidableEq

namespace EmojiTail

/-- The part of an emoji sequence that a character is by itself. -/
def ofChar? (c : Char) : Option EmojiTail :=
  if Unicode.isModifier c then some .modifier
  else if Unicode.isRegionalIndicator c then some .flagLetter
  else if Unicode.isEmoji c then some .whole
  else none

/-- Whether the front of the text waits for the emoji that the joiner ties to it. -/
def isJoined (tail : EmojiTail) : Bool := tail = .joined || tail = .joinedKey

/-- Whether a character is an invisible copy of a small letter. -/
def isTagLetter (c : Char) : Bool := Unicode.CodeRanges.contains [(0xE0061, 0xE007A)] c

/-- Whether a character is an invisible copy of a digit. -/
def isTagDigit (c : Char) : Bool := Unicode.CodeRanges.contains [(0xE0030, 0xE0039)] c

/-- The flag that tags may follow. -/
def isTaggedFlag (c : Char) : Bool := c.toNat = 0x1F3F4

/-- What a character before tag letters makes of them: they are at most six, and all of the tags or
up to four behind the digits. -/
def extendTagLetters? (count : Nat) (c : Char) : Option EmojiTail :=
  if isTagLetter c && count < 6 then some (.tagLetters (count + 1))
  else if isTagDigit c && count ≤ 4 then some (.tagDigits 1)
  else if isTaggedFlag c && 3 ≤ count then some .whole
  else none

/-- What a character before tag digits makes of them: they are three. -/
def extendTagDigits? (count : Nat) (c : Char) : Option EmojiTail :=
  if isTagDigit c && count < 3 then some (.tagDigits (count + 1))
  else if isTaggedFlag c && count = 3 then some .whole
  else none

/-- What a character before a joined emoji adds to the columns of the two. -/
def extendJoined? (c : Char) : Option (Int × EmojiTail) :=
  if c.toNat = 0x20E3 then some (0, .joinedKey)
  else if c.toNat = 0xE007F then some (0, .tagLetters 0)
  else if Unicode.isRegionalIndicator c then some (1, .joinedFlagLetter)
  else if Unicode.isModifier c then some (0, .modifier)
  else if Unicode.isEmoji c then some (0, .whole)
  else none

/-- What a character in front of the tail adds to the columns, and the tail they make together.
Without an answer the two stand apart. -/
def extend? (tail : EmojiTail) (c : Char) : Option (Int × EmojiTail) :=
  match tail with
  | .whole => if c = joiner then some (0, .joined) else none
  | .modifier =>
    if c = joiner then some (0, .joined)
    else if Unicode.isModifierBase c then some (0, .whole)
    else none
  | .flagLetter => if Unicode.isRegionalIndicator c then some (1, .flagLetters) else none
  | .flagLetters =>
    if c = joiner then some (0, .joined)
    else if Unicode.isRegionalIndicator c then some (1, .flagLetters)
    else none
  | .joined => extendJoined? c
  | .joinedKey => none
  | .joinedFlagLetter => if Unicode.isRegionalIndicator c then some (-1, .joinedFlag) else none
  | .joinedFlag =>
    if c = joiner then some (0, .joined)
    else if Unicode.isRegionalIndicator c then some (3, .joinedFlags)
    else none
  | .joinedFlags =>
    if c = joiner then some (0, .joined)
    else if Unicode.isRegionalIndicator c then some (-1, .joinedFlag)
    else none
  | .tagLetters count => (extendTagLetters? count c).map fun tail => (0, tail)
  | .tagDigits count => (extendTagDigits? count c).map fun tail => (0, tail)

/-- The columns that the next character may take back. -/
def owed : EmojiTail → Int
  | .joinedFlagLetter | .joinedFlags => 1
  | _ => 0

theorem owed_of_ofChar? {c : Char} {tail : EmojiTail} (h : ofChar? c = some tail) :
    tail.owed = 0 := by
  unfold ofChar? at h
  (repeat' split at h) <;> cases h <;> rfl

private theorem owed_le_of_extendJoined? {c : Char} {added : Int} {front : EmojiTail}
    (h : extendJoined? c = some (added, front)) : front.owed ≤ added := by
  unfold extendJoined? at h
  (repeat' split at h) <;> cases h <;> decide

private theorem owed_of_extendTagLetters? {count : Nat} {c : Char} {front : EmojiTail}
    (h : extendTagLetters? count c = some front) : front.owed = 0 := by
  unfold extendTagLetters? at h
  (repeat' split at h) <;> cases h <;> rfl

private theorem owed_of_extendTagDigits? {count : Nat} {c : Char} {front : EmojiTail}
    (h : extendTagDigits? count c = some front) : front.owed = 0 := by
  unfold extendTagDigits? at h
  (repeat' split at h) <;> cases h <;> rfl

theorem owed_le_of_extend? {tail : EmojiTail} {c : Char} {added : Int} {front : EmojiTail}
    (h : tail.extend? c = some (added, front)) : front.owed ≤ tail.owed + added := by
  cases tail
  case joined => exact (Int.zero_add added).symm ▸ owed_le_of_extendJoined? h
  case tagLetters =>
    obtain ⟨rest, hr, heq⟩ := Option.map_eq_some_iff.mp h
    cases heq
    exact Int.le_of_eq (owed_of_extendTagLetters? hr)
  case tagDigits =>
    obtain ⟨rest, hr, heq⟩ := Option.map_eq_some_iff.mp h
    cases heq
    exact Int.le_of_eq (owed_of_extendTagDigits? hr)
  all_goals
    simp only [extend?] at h
    (repeat' split at h) <;> cases h <;> decide

end EmojiTail

end Hanyu.Text
