import Hanyu.Text
import Hanyu.Text.EmojiSequence

/-!
# Columns

How many display columns a text takes, and padding a text to a number of columns. Characters add
up, but for ligatures, emoji sequences, line ends of two characters, and variation selectors that
ask for another style of the character before them. All of these are settled by the end of the
text, which is therefore measured from its last character to its first.

* `columns_nil`: no text takes no column.
* `columns_eq`: what is taken back was counted before, so the count is never negative.
* `length_le_padColumns`: padding only appends.
-/

namespace Hanyu.Text

/-- A variation selector that can change the columns of the character before it. -/
inductive Selector where
  | emojiStyle
  | textStyle
  /-- Asks for a quotation mark as wide as an ideograph. -/
  | wideQuotation
  deriving DecidableEq

/-- The selector that a character is. -/
def Selector.ofChar? (c : Char) : Option Selector :=
  if c = '\ufe0f' then some .emojiStyle
  else if c = '\ufe0e' then some .textStyle
  else if c = '\ufe01' then some .wideQuotation
  else none

/-- What a text begins with, as far as it bears on the width of the character before it. -/
inductive Front where
  | plain
  | lineFeed
  | ligature (tail : LigatureTail)
  | emoji (tail : EmojiTail)

namespace Front

/-- Whether a joiner waits for an emoji before it. -/
def isJoined : Front → Bool
  | .emoji tail => tail.isJoined
  | _ => false

/-- Whether selectors leave the front as it is, and stay open one behind another. -/
def isOpen : Front → Bool
  | .ligature tail => tail.spansMarks
  | _ => false

/-- The front behind a selector. A ligature stays open, and so does a joined emoji when the selector
is for emoji style. -/
def select (front : Front) (selector : Selector) : Front :=
  match front with
  | .ligature tail => if tail.spansMarks then .ligature tail else .plain
  | .emoji tail => if selector = .emojiStyle && tail.isJoined then .emoji tail else .plain
  | _ => .plain

/-- The front when the selectors before it do not apply. -/
def unselect : Front → Front
  | .ligature tail => .ligature tail
  | _ => .plain

/-- The columns of a character on its own, and the front it makes. -/
def start (c : Char) : Int × Front :=
  if c = '\n' then (1, .lineFeed)
  else
    match LigatureTail.ofChar? c with
    | some tail => (1, .ligature tail)
    | none =>
      match EmojiTail.ofChar? c with
      | some tail => (Unicode.columnsOfChar c, .emoji tail)
      | none => (Unicode.columnsOfChar c, .plain)

/-- What a character before the front adds to the columns, and the front it makes. -/
def extend (front : Front) (c : Char) : Int × Front :=
  match front with
  | .plain => start c
  | .lineFeed => if c = '\r' then (0, .plain) else start c
  | .ligature tail =>
    match tail.merge? c with
    | some (added, some tail) => (added, .ligature tail)
    | some (added, none) => (added, .plain)
    | none => start c
  | .emoji tail =>
    match tail.extend? c with
    | some (added, tail) => (added, .emoji tail)
    | none => start c

/-- What a character adds to the columns whose style a selector asks for, if it has that style. -/
def style? (front : Front) (selector : Selector) (c : Char) : Option (Int × Front) :=
  match selector with
  | .emojiStyle =>
    if Unicode.isStyled c then some (if front.isJoined then 0 else 2, .emoji .whole) else none
  | .textStyle => if Unicode.isNarrowedByTextStyle c then some (1, .plain) else none
  | .wideQuotation => if ['‘', '’', '“', '”'].contains c then some (2, .plain) else none

/-- The columns that the next character may take back. -/
def owed : Front → Int
  | .ligature tail => tail.owed
  | .emoji tail => tail.owed
  | _ => 0

end Front

/-- A text measured from its end: its columns so far, its front, and the selectors before that,
which still look for a character to change. -/
structure Measured where
  columns : Int
  front : Front
  selectors : List Selector

namespace Measured

/-- No text yet. -/
def empty : Measured := ⟨0, .plain, []⟩

/-- The front when none of the selectors applies. -/
def unselected (text : Measured) : Front :=
  if text.selectors.isEmpty then text.front else text.front.unselect

/-- A further selector before the measured text. Those before it stay open at a ligature, but for
one that asks for emoji style, which is settled by the character right before it. -/
def pushSelector (text : Measured) (selector : Selector) : Measured :=
  let earlier := text.selectors.filter fun s => s ≠ selector && s ≠ .emojiStyle
  ⟨text.columns, text.unselected.select selector,
    selector :: if text.unselected.isOpen then earlier else []⟩

/-- A further character before the measured text. -/
def push (text : Measured) (c : Char) : Measured :=
  match text.selectors.findSome? fun selector => text.front.style? selector c with
  | some (added, front) => ⟨text.columns + added, front, []⟩
  | none =>
    match Selector.ofChar? c with
    | some selector => text.pushSelector selector
    | none =>
      ⟨text.columns + (text.unselected.extend c).1, (text.unselected.extend c).2, []⟩

end Measured

/-- The text, measured from its last character to its first. -/
def measure (text : Text) : Measured := text.foldr (fun c rest => rest.push c) .empty

/-- The display columns of a text. -/
def columns (text : Text) : Nat := (measure text).columns.toNat

@[simp] theorem columns_nil : columns [] = 0 := rfl

/-- The text followed by as many spaces as it lacks to `width` columns. -/
def padColumns (text : Text) (width : Nat) : Text :=
  text ++ List.replicate (width - columns text) ' '

theorem length_le_padColumns (text : Text) (width : Nat) :
    text.length ≤ (padColumns text width).length := by
  simp [padColumns]

/-! ## The count is never negative -/

namespace Front

private theorem owed_nonneg (front : Front) : 0 ≤ front.owed := by
  cases front
  case ligature tail => cases tail <;> decide +revert
  case emoji tail => cases tail <;> simp [owed, EmojiTail.owed]
  all_goals decide

private theorem owed_unselect_le (front : Front) : front.unselect.owed ≤ front.owed := by
  cases front
  case ligature => exact Int.le_refl _
  all_goals exact owed_nonneg _

private theorem owed_select_le (front : Front) (selector : Selector) :
    (front.select selector).owed ≤ front.owed := by
  cases front
  case ligature | emoji =>
    simp only [select]
    split
    · exact Int.le_refl _
    · exact owed_nonneg _
  all_goals exact owed_nonneg _

private theorem owed_start_le (c : Char) : (start c).2.owed ≤ (start c).1 := by
  unfold start
  split
  · decide
  · split
    · exact LigatureTail.owed_le_one _
    · split
      · next tail h =>
        simp only [owed, EmojiTail.owed_of_ofChar? h]
        omega
      · exact Int.natCast_nonneg _

private theorem owed_extend_le (front : Front) (c : Char) :
    (front.extend c).2.owed ≤ front.owed + (front.extend c).1 := by
  have hstart : (start c).2.owed ≤ front.owed + (start c).1 := by
    have := owed_start_le c
    have := owed_nonneg front
    omega
  cases front
  case plain => exact hstart
  case lineFeed =>
    simp only [extend]
    split
    · decide
    · exact hstart
  case ligature tail =>
    simp only [extend]
    split
    · next h => exact LigatureTail.owed_le_of_merge? h
    · next h => exact LigatureTail.owed_le_of_merge? h
    · exact hstart
  case emoji tail =>
    simp only [extend]
    split
    · next h => exact EmojiTail.owed_le_of_extend? h
    · exact hstart

private theorem owed_le_of_style? {front after : Front} {selector : Selector} {c : Char}
    {added : Int} (h : front.style? selector c = some (added, after)) : after.owed ≤ added := by
  cases selector <;> simp only [style?] at h <;> split at h <;> cases h
  · simp only [owed, EmojiTail.owed]
    split <;> decide
  all_goals decide

end Front

private theorem Measured.owed_push_le {text : Measured} (h : text.front.owed ≤ text.columns)
    (c : Char) : (text.push c).front.owed ≤ (text.push c).columns := by
  have hfront : text.unselected.owed ≤ text.columns := by
    unfold unselected
    split
    · exact h
    · exact Int.le_trans (Front.owed_unselect_le _) h
  simp only [push]
  split
  · next added front hs =>
    obtain ⟨selector, -, hstyle⟩ := List.exists_of_findSome?_eq_some hs
    have := Front.owed_le_of_style? hstyle
    have := Front.owed_nonneg text.front
    simp only
    omega
  · split
    · exact Int.le_trans (Front.owed_select_le _ _) hfront
    · have := Front.owed_extend_le text.unselected c
      simp only
      omega

private theorem owed_measure_le (text : Text) :
    (measure text).front.owed ≤ (measure text).columns := by
  induction text with
  | nil => decide
  | cons c text ih => exact Measured.owed_push_le ih c

theorem columns_eq (text : Text) : (columns text : Int) = (measure text).columns :=
  Int.toNat_of_nonneg (Int.le_trans (Front.owed_nonneg _) (owed_measure_le text))

end Hanyu.Text
