import Hanyu.Proofs.Trimming
import Hanyu.Report
import Mathlib.Data.List.Forall2

/-!
# The rows of a table

A table is printed with the texts of its tokens as they are, so that it has a line for each token
exactly when no line ends within a row. The padding of the cells makes no difference, but what is
trimmed at the end of a row does.

* `readLines`: a text read line by line. `length_readLines_lines`: printed lines have as many more
  when they are read as lines end within them.
* `Text.BreaksAlike`: texts that cannot be told apart by where their lines end. Padding a text gives
  such a text.
* `Row.BreaksLine`: a line ends within a row, which is seen from its cells (`Row.breaksLine_iff`).
* `oneRowPerToken_iff`: which tables have one row for every token.
-/

namespace Hanyu

/-! ## Line ends in texts -/

namespace Text

theorem isBlank_append (text later : Text) :
    (text ++ later).isBlank = (text.isBlank && later.isBlank) := List.all_append

/-- A character that is left at the end of two texts is left at the end of one of them, or it is in
the first one and the second one is not blank. -/
theorem mem_trimEnd_append_iff {c : Char} {text later : Text} :
    c ∈ (text ++ later).trimEnd ↔
      c ∈ text.trimEnd ∨ c ∈ later.trimEnd ∨ (c ∈ text ∧ later.isBlank = false) := by
  rw [trimEnd_append]
  cases hb : later.isBlank with
  | true => simp [trimEnd_of_isBlank hb]
  | false =>
    have hsub : c ∈ text.trimEnd → c ∈ text := fun h => (trimEnd_prefix_self text).subset h
    simp only [Bool.false_eq_true, if_false, List.mem_append, and_true]
    constructor
    · rintro (h | h)
      · exact .inr (.inr h)
      · exact .inr (.inl h)
    · rintro (h | h | h)
      · exact .inl (hsub h)
      · exact .inr h
      · exact .inl h

/-- Lines end in one text exactly when they do so in the other, also when both are trimmed or
something is put behind them. -/
structure BreaksAlike (text text' : Text) : Prop where
  mem : '\n' ∈ text ↔ '\n' ∈ text'
  trimmed : '\n' ∈ text.trimEnd ↔ '\n' ∈ text'.trimEnd
  blank : text.isBlank = text'.isBlank

namespace BreaksAlike

variable {text text' later later' : Text}

theorem refl (text : Text) : BreaksAlike text text := ⟨.rfl, .rfl, rfl⟩

theorem append (h : BreaksAlike text text') (hl : BreaksAlike later later') :
    BreaksAlike (text ++ later) (text' ++ later') where
  mem := by rw [List.mem_append, List.mem_append, h.mem, hl.mem]
  trimmed := by
    rw [mem_trimEnd_append_iff, mem_trimEnd_append_iff, h.trimmed, hl.trimmed, h.mem, hl.blank]
  blank := by rw [isBlank_append, isBlank_append, h.blank, hl.blank]

/-- Spaces behind a text make no difference. -/
theorem spaces (h : BreaksAlike text text') (n : Nat) :
    BreaksAlike (text ++ List.replicate n ' ') text' := by
  have hblank : isBlank (List.replicate n ' ') = true := by
    rw [isBlank, List.all_eq_true]
    intro c hc
    rw [List.eq_of_mem_replicate hc]
    decide
  have hnone : '\n' ∉ List.replicate n ' ' := fun hc => by
    cases List.eq_of_mem_replicate hc
  refine ⟨?_, ?_, ?_⟩
  · rw [List.mem_append, ← h.mem]
    exact or_iff_left hnone
  · rw [trimEnd_append, if_pos hblank, h.trimmed]
  · rw [isBlank_append, hblank, Bool.and_true, h.blank]

end BreaksAlike

end Text

namespace Report

/-! ## Reading lines -/

/-- The lines of a text. Each ends with a line feed, or with the text. -/
def readLines : Text → List Text
  | [] => []
  | c :: rest =>
    if c = '\n' then [] :: readLines rest
    else
      match readLines rest with
      | [] => [[c]]
      | line :: later => (c :: line) :: later

theorem readLines_append {line : Text} (h : '\n' ∉ line) (rest : Text) :
    readLines (line ++ '\n' :: rest) = line :: readLines rest := by
  induction line with
  | nil => rfl
  | cons c line ih =>
    obtain ⟨hc, hline⟩ := List.ne_and_not_mem_of_not_mem_cons h
    rw [List.cons_append, readLines, if_neg (Ne.symm hc), ih hline]

theorem length_readLines_append (line rest : Text) :
    (readLines (line ++ '\n' :: rest)).length = line.count '\n' + 1 + (readLines rest).length := by
  induction line with
  | nil => simp [readLines, Nat.add_comm]
  | cons c line ih =>
    rw [List.cons_append, readLines]
    split
    · rename_i hc
      subst hc
      rw [List.length_cons, ih, List.count_cons_self]
      omega
    · rename_i hc
      -- What is put in front of the next line makes it longer, but not one line more.
      have hlength : ∀ lines : List Text, 0 < lines.length →
          (match lines with
            | [] => [[c]]
            | line :: later => (c :: line) :: later).length = lines.length := by
        rintro (_ | ⟨line, later⟩) hpos
        · cases hpos
        · rfl
      rw [hlength _ (by omega), ih, List.count_cons_of_ne hc]

/-- Printed lines without line feeds are read as they are. -/
theorem readLines_lines {list : List Text} (h : ∀ line ∈ list, '\n' ∉ line) :
    readLines (lines list) = list := by
  induction list with
  | nil => rfl
  | cons line list ih =>
    obtain ⟨hline, hlist⟩ := List.forall_mem_cons.mp h
    rw [lines, List.flatMap_cons, List.append_assoc, List.singleton_append, readLines_append hline]
    exact congrArg _ (ih hlist)

/-- Every line feed within printed lines makes one line more. -/
theorem length_readLines_lines (list : List Text) :
    (readLines (lines list)).length = list.length + list.flatten.count '\n' := by
  induction list with
  | nil => rfl
  | cons line list ih =>
    rw [lines, List.flatMap_cons, List.append_assoc, List.singleton_append, length_readLines_append,
      List.length_cons, List.flatten_cons, List.count_append]
    rw [lines] at ih
    omega

/-- Printed lines are read as they are exactly when there is no line feed within them. -/
theorem readLines_lines_iff {list : List Text} :
    readLines (lines list) = list ↔ ∀ line ∈ list, '\n' ∉ line := by
  refine ⟨fun h line hline hmem => ?_, readLines_lines⟩
  have hlength := length_readLines_lines list
  rw [h] at hlength
  have hcount : 0 < list.flatten.count '\n' :=
    List.count_pos_iff.mpr (List.mem_flatten.mpr ⟨line, hline, hmem⟩)
  omega

/-! ## Rows -/

namespace Row

/-- A line ends within a row when it is printed: in its surface, or before the last character in the
other cells that is no blank. -/
def BreaksLine (row : Row) : Prop :=
  '\n' ∈ row.surface ∨
    '\n' ∈ (row.romanization ++ row.tag ++ row.tone ++ row.candidates).trimEnd

/-- The second cell of a row says something. -/
structure IsMarked (row : Row) : Prop where
  notBlank : row.lexical.isBlank = false
  oneLine : '\n' ∉ row.lexical

theorem isMarked_ofToken (token : Token) : (ofToken token).IsMarked := by
  have hcell : (ofToken token).lexical = if token.isLexical then "yes".toList else ['-'] := rfl
  cases hl : token.isLexical <;> rw [hl] at hcell <;> constructor <;> rw [hcell] <;> decide

/-- The cells of a row in a line break like the cells put together. -/
theorem breaksAlike_layOut (surfaceWidth romanizationWidth : Nat) (row : Row) :
    (row.layOut surfaceWidth romanizationWidth).BreaksAlike
      (row.surface ++ row.lexical ++ row.romanization ++ row.tag ++ row.tone ++ row.candidates) := by
  have hcell : ∀ {text text' : Text}, text.BreaksAlike text' → ∀ (cell : Text) (width gap : Nat),
      (text ++ (cell ++ List.replicate width ' ') ++ List.replicate gap ' ').BreaksAlike
        (text' ++ cell) :=
    fun h cell width gap => (h.append ((Text.BreaksAlike.refl cell).spaces width)).spaces gap
  have hsurface := ((Text.BreaksAlike.refl row.surface).spaces
    (surfaceWidth - row.surface.columns)).spaces 2
  have hlexical := hcell hsurface row.lexical (4 - row.lexical.length) 1
  have hromanization := hcell hlexical row.romanization
    (romanizationWidth - row.romanization.columns) 2
  have htag := hcell hromanization row.tag (4 - row.tag.length) 1
  have htone := hcell htag row.tone (4 - row.tone.length) 1
  exact htone.append (.refl row.candidates)

/-- No line ends within the header. -/
theorem header_oneLine (surfaceWidth romanizationWidth : Nat) :
    '\n' ∉ header.layOut surfaceWidth romanizationWidth :=
  (breaksAlike_layOut surfaceWidth romanizationWidth header).mem.not.mpr (by decide)

theorem breaksLine_iff {row : Row} (h : row.IsMarked) (surfaceWidth romanizationWidth : Nat) :
    '\n' ∈ (row.layOut surfaceWidth romanizationWidth).trimEnd ↔ row.BreaksLine := by
  have hcells : row.surface ++ row.lexical ++ row.romanization ++ row.tag ++ row.tone ++
      row.candidates = row.surface ++ (row.lexical ++
        (row.romanization ++ row.tag ++ row.tone ++ row.candidates)) := by
    simp only [List.append_assoc]
  have hlexical : '\n' ∉ row.lexical.trimEnd := fun hmem =>
    h.oneLine ((Text.trimEnd_prefix_self _).subset hmem)
  rw [(breaksAlike_layOut surfaceWidth romanizationWidth row).trimmed, hcells, BreaksLine,
    Text.mem_trimEnd_append_iff, Text.mem_trimEnd_append_iff, Text.isBlank_append row.lexical,
    h.notBlank]
  simp only [Bool.false_and, and_true]
  constructor
  · rintro (hs | (hl | hr | ⟨hl, -⟩) | hs)
    · exact .inl ((Text.trimEnd_prefix_self _).subset hs)
    · exact absurd hl hlexical
    · exact .inr hr
    · exact absurd hl h.oneLine
    · exact .inl hs
  · rintro (hs | hr)
    · exact .inr (.inr hs)
    · exact .inr (.inl (.inr (.inl hr)))

/-- A trimmed row begins with its surface. -/
theorem surface_prefix_trimEnd {row : Row} (h : row.IsMarked)
    (surfaceWidth romanizationWidth : Nat) :
    row.surface <+: (row.layOut surfaceWidth romanizationWidth).trimEnd := by
  obtain ⟨between, behind, hrow⟩ : ∃ between behind, row.layOut surfaceWidth romanizationWidth =
      row.surface ++ (between ++ (row.lexical ++ behind)) := by
    refine ⟨List.replicate (surfaceWidth - row.surface.columns) ' ' ++ [' ', ' '], ?_, ?_⟩
    rotate_left
    · simp only [layOut, Text.padColumns, Text.padTo, List.append_assoc]
      rfl
  have hbehind : Text.isBlank (between ++ (row.lexical ++ behind)) = false := by
    rw [Text.isBlank_append, Text.isBlank_append, h.notBlank, Bool.false_and, Bool.and_false]
  rw [hrow, Text.trimEnd_append, hbehind]
  exact List.prefix_append _ _

end Row

/-! ## Tables -/

/-- What is read line by line off the printed table of a batch is the header, and the row of every
token in order. -/
def OneRowPerToken (batch : Batch) : Prop := readLines (table batch) = tableLines batch

/-- **One row per token.** The table of a batch has one row for every token exactly when no line
ends in a surface, or in the other texts of a token before their last character that is no blank.
Otherwise there are so many lines more. Every row begins with the surface of its token. -/
theorem oneRowPerToken_iff (batch : Batch) :
    (OneRowPerToken batch ↔ ∀ token ∈ batch.tokens, ¬(Row.ofToken token).BreaksLine) ∧
      (readLines (table batch)).length =
        batch.tokens.length + 1 + (tableLines batch).flatten.count '\n' ∧
      List.Forall₂ (fun token row => token.surface <+: row) batch.tokens
        (tableLines batch).tail := by
  refine ⟨?_, ?_, ?_⟩
  · rw [OneRowPerToken, table, readLines_lines_iff, tableLines, List.forall_mem_cons]
    simp only [List.mem_map, forall_exists_index, and_imp, forall_apply_eq_imp_iff₂]
    exact ⟨fun h token ht => (Row.breaksLine_iff (Row.isMarked_ofToken token) _ _).not.mp
        (h.2 token ht),
      fun h => ⟨Row.header_oneLine _ _, fun token ht =>
        (Row.breaksLine_iff (Row.isMarked_ofToken token) _ _).not.mpr (h token ht)⟩⟩
  · rw [table, length_readLines_lines, tableLines_length]
  · rw [tableLines, List.tail_cons, List.map_map, List.forall₂_map_right_iff, List.forall₂_same]
    exact fun token _ => Row.surface_prefix_trimEnd (Row.isMarked_ofToken token) _ _

/-- A token that is a line feed has its row in two lines. -/
theorem two_lines_for_line_feed :
    let batch : Batch := .ofTokens [.filler ['\n']]
    readLines (table batch) =
        ["surface  lex  romanization  pos  tone candidates".toList, [], "        -".toList] ∧
      ¬OneRowPerToken batch := by
  intro batch
  have hlines : readLines (table batch) =
      ["surface  lex  romanization  pos  tone candidates".toList, [], "        -".toList] := by
    decide +kernel
  refine ⟨hlines, fun h => ?_⟩
  have hcount := congrArg List.length h
  rw [hlines, tableLines_length] at hcount
  cases hcount

end Report

end Hanyu
