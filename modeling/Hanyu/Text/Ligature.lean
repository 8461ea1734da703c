import Hanyu.Unicode.Width

/-!
# Ligatures

Letters of some scripts are drawn over or into the letter before them, and then take fewer columns
than on their own. A text is measured from its end, so a ligature is known here by its last letter:
a `LigatureTail` says what stands at the front of the text measured so far, and `merge?` what a
further character in front of it adds.

* `owed_le_of_merge?`: a ligature takes back only columns that were counted for its letters.
-/

namespace Hanyu.Text

/-- The character that joins its neighbours. -/
def joiner : Char := '\u200d'

/-- The end of a possible ligature at the front of a text. `joined` says that a joiner stands before
the letter. -/
inductive LigatureTail where
  /-- An Arabic alef, drawn into a lam. -/
  | alef
  /-- A Hebrew lamed, drawn into a joined alef. -/
  | lamed (joined : Bool)
  /-- A Buginese ya. -/
  | ya (joined : Bool)
  /-- A joined Buginese ya behind the vowel sign i, drawn into the letter a. -/
  | vowelYa
  /-- A Tifinagh consonant. -/
  | tifinagh (joined : Bool)
  /-- A Tifinagh consonant behind the visible consonant joiner. -/
  | tifinaghPair
  /-- A Lisu tone letter, drawn over another. -/
  | tone
  /-- An Old Turkic i, drawn into a joined letter. -/
  | orkhonI (joined : Bool)
  /-- A Khmer letter that can be drawn below another. -/
  | khmer
  /-- The Kirat Rai vowel sign e, a part of other vowel signs. -/
  | kiratE
  /-- The Kirat Rai vowel sign ai, or its two parts. -/
  | kiratAi
  deriving DecidableEq

/-- Khmer letters whose form below the line takes no column. -/
def subscriptKhmerRanges : Unicode.CodeRanges := [
  (0x1780, 0x1782), (0x1784, 0x1787), (0x1789, 0x178C), (0x178E, 0x1793), (0x1795, 0x1798),
   (0x179B, 0x179D), (0x17A0, 0x17A0), (0x17A2, 0x17A2), (0x17A7, 0x17A7), (0x17AB, 0x17AC),
   (0x17AF, 0x17AF)]

/-- Arabic letters of the shape of alef. -/
def alefRanges : Unicode.CodeRanges := [
  (0x622, 0x623), (0x625, 0x625), (0x627, 0x627), (0x671, 0x673), (0x675, 0x675), (0x773, 0x774),
   (0x870, 0x882)]

/-- Arabic letters of the shape of lam. -/
def lamRanges : Unicode.CodeRanges := [
  (0x644, 0x644), (0x6B5, 0x6B8), (0x76A, 0x76A), (0x8A6, 0x8A6), (0x8C7, 0x8C7)]

/-- Whether a character is a Tifinagh consonant. -/
def isTifinaghConsonant (c : Char) : Bool :=
  Unicode.CodeRanges.contains [(0x2D31, 0x2D65), (0x2D6F, 0x2D6F)] c

/-- Whether a character is an invisible combining mark, which leaves a ligature around it whole. -/
def isInvisibleMark (c : Char) : Bool :=
  Unicode.CodeRanges.contains
    [(0x34F, 0x34F), (0x17B4, 0x17B5), (0x180B, 0x180D), (0x180F, 0x180F), (0xFE00, 0xFE0F),
      (0xE0100, 0xE01EF)] c

namespace LigatureTail

/-- The letter at the end of a possible ligature, by itself. Each takes one column. -/
def ofChar? (c : Char) : Option LigatureTail :=
  if alefRanges.contains c then some .alef
  else if subscriptKhmerRanges.contains c then some .khmer
  else if isTifinaghConsonant c then some (.tifinagh false)
  else if c.toNat = 0x5DC then some (.lamed false)
  else if c.toNat = 0x1A10 then some (.ya false)
  else if c.toNat = 0xA4FC ∨ c.toNat = 0xA4FD then some .tone
  else if c.toNat = 0x10C03 then some (.orkhonI false)
  else if c.toNat = 0x16D67 then some .kiratE
  else if c.toNat = 0x16D68 then some .kiratAi
  else none

/-- The tail behind a joiner. -/
def join : LigatureTail → LigatureTail
  | .lamed _ => .lamed true
  | .ya _ => .ya true
  | .tifinagh _ => .tifinagh true
  | .orkhonI _ => .orkhonI true
  | tail => tail

/-- Whether the letters still meet over joiners and invisible marks between them. The parts of a
Kirat Rai vowel sign do not. -/
def spansMarks : LigatureTail → Bool
  | .kiratE | .kiratAi => false
  | _ => true

/-- What a letter or a sign in front of the tail adds to the columns, and the tail they make
together. Without an answer the two stand apart. -/
def mergeLetter? (tail : LigatureTail) (c : Char) : Option (Int × Option LigatureTail) :=
  match tail with
  | .alef => if lamRanges.contains c then some (0, none) else none
  | .lamed true => if c.toNat = 0x5D0 then some (0, none) else none
  | .ya true => if c.toNat = 0x1A17 then some (0, some .vowelYa) else none
  | .vowelYa => if c.toNat = 0x1A15 then some (0, none) else none
  | .tifinagh joined =>
    if c.toNat = 0x2D7F then some (1, some .tifinaghPair)
    else if joined && isTifinaghConsonant c then some (0, none)
    else none
  | .tifinaghPair => if isTifinaghConsonant c then some (-1, none) else none
  | .tone => if 0xA4F8 ≤ c.toNat ∧ c.toNat ≤ 0xA4FB then some (0, none) else none
  | .orkhonI true => if c.toNat = 0x10C32 then some (0, none) else none
  | .khmer => if c.toNat = 0x17D2 then some (-1, none) else none
  | .kiratE =>
    if c.toNat = 0x16D63 ∨ c.toNat = 0x16D69 then some (0, none)
    else if c.toNat = 0x16D67 then some (0, some .kiratAi)
    else if c.toNat = 0x16D68 then some (1, some .kiratE)
    else none
  | .kiratAi => if c.toNat = 0x16D63 then some (0, none) else none
  | .lamed false | .ya false | .orkhonI false => none

/-- What a character in front of the tail adds to the columns, and the tail they make together.
An alef joins over every transparent character, the others over joiners and invisible marks. -/
def merge? (tail : LigatureTail) (c : Char) : Option (Int × Option LigatureTail) :=
  if tail = .alef && Unicode.isShapingTransparent c then some (0, some .alef)
  else if tail ≠ .alef && tail.spansMarks && c = joiner then some (0, some tail.join)
  else if tail ≠ .alef && tail.spansMarks && isInvisibleMark c then some (0, some tail)
  else tail.mergeLetter? c

/-- The columns that the next character may take back. -/
def owed : LigatureTail → Int
  | .khmer | .tifinaghPair => 1
  | _ => 0

theorem owed_le_one (tail : LigatureTail) : tail.owed ≤ 1 := by
  cases tail <;> simp [owed]

@[simp] theorem owed_join (tail : LigatureTail) : tail.join.owed = tail.owed := by
  cases tail <;> rfl

/-- The columns owed by what stands at the front of a text, if it is a tail. -/
def owedBy (front : Option LigatureTail) : Int := front.elim 0 owed

private theorem owed_le_of_mergeLetter? {tail : LigatureTail} {c : Char} {added : Int}
    {front : Option LigatureTail} (h : tail.mergeLetter? c = some (added, front)) :
    owedBy front ≤ tail.owed + added := by
  unfold mergeLetter? at h
  (repeat' split at h) <;> simp only [reduceCtorEq, Option.some.injEq, Prod.mk.injEq] at h
  all_goals obtain ⟨rfl, rfl⟩ := h; simp [owedBy, owed]

theorem owed_le_of_merge? {tail : LigatureTail} {c : Char} {added : Int}
    {front : Option LigatureTail} (h : tail.merge? c = some (added, front)) :
    owedBy front ≤ tail.owed + added := by
  unfold merge? at h
  split at h
  · next ha =>
    simp only [Bool.and_eq_true, decide_eq_true_eq] at ha
    cases h
    simp [owedBy, ha.1]
  · split at h
    · cases h; simp [owedBy]
    · split at h
      · cases h; simp [owedBy]
      · exact owed_le_of_mergeLetter? h

end LigatureTail

end Hanyu.Text
