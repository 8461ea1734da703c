import Hanyu.Unicode.Blank

/-!
# Text

Text is a list of characters, so that splitting and joining it is splitting and joining lists.

* `rest?_eq_some_iff`: what follows a word in a text is what the word has to be put before.
* `cut?_eq_some`: cutting a text at a word loses nothing.
-/

namespace Hanyu

/-- A text: its characters in reading order. -/
abbrev Text := List Char

namespace Text

/-- What follows `word` in `text`, when the text begins with it. -/
def rest? : (text word : Text) → Option Text
  | text, [] => some text
  | [], _ :: _ => none
  | c :: text, w :: word => if c = w then rest? text word else none

theorem rest?_eq_some_iff {text word rest : Text} :
    text.rest? word = some rest ↔ text = word ++ rest := by
  induction word generalizing text with
  | nil => simp [rest?]
  | cons w word ih =>
    cases text with
    | nil => simp [rest?]
    | cons c text =>
      by_cases h : c = w
      · simp [rest?, h, ih]
      · simp [rest?, h]

@[simp] theorem rest?_append (word rest : Text) : rest? (word ++ rest) word = some rest :=
  rest?_eq_some_iff.mpr rfl

/-- Whether `text` begins with `word`. -/
def beginsWith (text word : Text) : Bool := (text.rest? word).isSome

/-- The text before the first occurrence of `word`, and the text after it. -/
def cut? : (text word : Text) → Option (Text × Text)
  | [], word => (rest? [] word).map fun rest => ([], rest)
  | c :: text, word =>
    match rest? (c :: text) word with
    | some rest => some ([], rest)
    | none => (cut? text word).map fun (before, rest) => (c :: before, rest)

theorem cut?_eq_some {text word before rest : Text} (h : text.cut? word = some (before, rest)) :
    text = before ++ word ++ rest := by
  induction text generalizing before with
  | nil =>
    simp only [cut?, Option.map_eq_some_iff, Prod.mk.injEq] at h
    obtain ⟨r, hr, rfl, rfl⟩ := h
    simpa using rest?_eq_some_iff.mp hr
  | cons c text ih =>
    rw [cut?] at h
    split at h
    · rename_i r hr
      simp only [Option.some.injEq, Prod.mk.injEq] at h
      obtain ⟨rfl, rfl⟩ := h
      simpa using rest?_eq_some_iff.mp hr
    · simp only [Option.map_eq_some_iff, Prod.exists, Prod.mk.injEq] at h
      obtain ⟨b, r, hbr, rfl, rfl⟩ := h
      simp [ih hbr]

/-- The text without the blank characters at its end. -/
def trimEnd (text : Text) : Text := (text.reverse.dropWhile Unicode.isBlank).reverse

/-- The text without the blank characters at its two ends. -/
def trim (text : Text) : Text := trimEnd (text.dropWhile Unicode.isBlank)

/-- Whether the text holds nothing but blank characters. -/
def isBlank (text : Text) : Bool := text.all Unicode.isBlank

/-- The text with its ASCII capitals made small. -/
def foldCase (text : Text) : Text := text.map Char.toLower

/-- Whether two texts differ at most in the case of ASCII letters. -/
def sameUpToCase (a b : Text) : Bool := foldCase a == foldCase b

theorem sameUpToCase_iff {a b : Text} : sameUpToCase a b = true ↔ foldCase a = foldCase b := by
  simp [sameUpToCase]

/-- The parts of a text, with `separator` between each two. -/
def join (separator : Text) (parts : List Text) : Text := separator.intercalate parts

/-- A natural number in decimal digits. -/
def decimal (n : Nat) : Text := (toString n).toList

/-- The text followed by as many spaces as it lacks to `length` characters. -/
def padTo (length : Nat) (text : Text) : Text :=
  text ++ List.replicate (length - text.length) ' '

end Text

end Hanyu
