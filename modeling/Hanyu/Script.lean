import Hanyu.Text
import Hanyu.Unicode.Alphanumeric

/-!
# Chinese script

Which characters are Han ideographs, which words carry something to read, and after which
characters a text may be cut.

* `isHan_iff`: the four blocks of ideographs.
* `isLexical_eq_true_iff`: a word is lexical when one of its characters is alphanumeric.
* `isLexical_append`: so is a text when one of its parts is.
-/

namespace Hanyu

/-- Whether a character is a Han ideograph: CJK Unified Ideographs, Extension A, Compatibility
Ideographs or Extension B. -/
def isHan (c : Char) : Bool :=
  Unicode.CodeRanges.contains
    [(0x4E00, 0x9FFF), (0x3400, 0x4DBF), (0xF900, 0xFAFF), (0x20000, 0x2A6DF)] c

/-- Whether a chunk of text is best cut after this character: the end of a sentence, or blank. -/
def isChunkBreak (c : Char) : Bool :=
  ['。', '！', '？', '；', '…', '.', '!', '?', ';', '\n'].contains c || Unicode.isBlank c

namespace Text

/-- Whether a text consists of Han ideographs, and has at least one. -/
def isHanText (text : Text) : Bool := !text.isEmpty && text.all isHan

/-- Whether a word carries a letter, a numeral or an ideograph, and not only punctuation, symbols
and blanks. -/
def isLexical (word : Text) : Bool := word.any Unicode.isAlphanumeric

theorem isLexical_eq_true_iff {word : Text} :
    word.isLexical = true ↔ ∃ c ∈ word, Unicode.isAlphanumeric c = true := by
  simp [isLexical]

@[simp] theorem isLexical_nil : isLexical [] = false := rfl

@[simp] theorem isLexical_append (a b : Text) :
    isLexical (a ++ b) = (a.isLexical || b.isLexical) := by
  simp [isLexical]

theorem ne_nil_of_isLexical {word : Text} (h : word.isLexical = true) : word ≠ [] := by
  rintro rfl; simp at h

end Text

theorem isHan_iff {c : Char} :
    isHan c = true ↔ (0x4E00 ≤ c.toNat ∧ c.toNat ≤ 0x9FFF) ∨ (0x3400 ≤ c.toNat ∧ c.toNat ≤ 0x4DBF) ∨
      (0xF900 ≤ c.toNat ∧ c.toNat ≤ 0xFAFF) ∨ (0x20000 ≤ c.toNat ∧ c.toNat ≤ 0x2A6DF) := by
  simp [isHan, Unicode.CodeRanges.contains_eq_true_iff]

end Hanyu
