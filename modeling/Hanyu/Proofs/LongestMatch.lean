import Hanyu.Proofs.LexiconLayout
import Hanyu.Proofs.Success

/-!
# Greedy longest match

A lexicon looks for its words from the longest one down, and only as far as the length it remembers.
What it should find is said here without any of this: at each place the longest of all its words,
else a run of ASCII letters or of ASCII digits, else a single alphanumeric character, else nothing.

* `Lexicon.Scan`: the pieces of a text by these rules.
* `Lexicon.isLongestWord_of_longestMatch?`, `Lexicon.longestMatch?_of_isLongestWord`: the search
  gives the longest word, although it is bounded.
* `Lexicon.scan_iff`: the rules allow the pieces that the lexicon finds, and no others.
* `Lexicon.Scan.isCover`: what the pieces cover, and how the words are tagged.
* `LexiconSegmenter.segment_scans`: a loaded segmenter answers with the pieces of this scan.
-/

namespace Hanyu

namespace Lexicon

/-! ## The rules -/

/-- The longest word of a lexicon with which a text begins, and its tag. -/
structure IsLongestWord (lexicon : Lexicon) (text word tag : Text) : Prop where
  listed : lexicon.tag? word = some tag
  begins : word <+: text
  longest : ∀ other tag, lexicon.tag? other = some tag → other <+: text →
    other.length ≤ word.length

/-- No word of a lexicon begins a text. -/
def BeginsNone (lexicon : Lexicon) (text : Text) : Prop :=
  ∀ word tag, lexicon.tag? word = some tag → ¬word <+: text

/-- A run of characters of one kind that goes as far as it can. -/
structure IsRun (kind : Char → Bool) (run rest : Text) : Prop where
  ne_nil : run ≠ []
  inside : ∀ c ∈ run, kind c = true
  ends : ∀ c ∈ rest.head?, kind c = false

/-- What is reported with which tag at the beginning of a text, and what follows it. -/
inductive Takes (lexicon : Lexicon) : Text → Text → Text → Prop
  /-- The longest word of the lexicon. -/
  | listed {word tag rest : Text} (h : lexicon.IsLongestWord (word ++ rest) word tag) :
      Takes lexicon word tag rest
  | letters {run rest : Text} (hn : lexicon.BeginsNone (run ++ rest))
      (hr : IsRun Char.isAlpha run rest) : Takes lexicon run latinTag rest
  | digits {run rest : Text} (hn : lexicon.BeginsNone (run ++ rest))
      (hr : IsRun Char.isDigit run rest) : Takes lexicon run numeralTag rest
  /-- Another alphanumeric character. -/
  | single {c : Char} {rest : Text} (hn : lexicon.BeginsNone (c :: rest))
      (ha : c.isAlphanum = false) (hu : Unicode.isAlphanumeric c = true) :
      Takes lexicon [c] unknownTag rest

/-- The pieces of a text by the rules. -/
inductive Scan (lexicon : Lexicon) : Text → List Piece → Prop
  | done : Scan lexicon [] []
  | report {word tag rest : Text} {pieces : List Piece} (h : lexicon.Takes word tag rest)
      (hs : Scan lexicon rest pieces) : Scan lexicon (word ++ rest) (.reported word tag :: pieces)
  | skip {c : Char} {rest : Text} {pieces : List Piece} (h : lexicon.IsQuietAt (c :: rest))
      (hs : Scan lexicon rest pieces) : Scan lexicon (c :: rest) (.skipped c :: pieces)

/-! ## The search for words -/

variable {lexicon : Lexicon}

/-- The search finds no shorter word than the longest one, however far the lexicon looks. -/
theorem isLongestWord_of_longestMatch? (hs : lexicon.IsSound) {text : Text} {hit : Hit}
    (h : lexicon.longestMatch? text (min lexicon.longest text.length) = some hit) :
    lexicon.IsLongestWord text hit.word hit.tag := by
  obtain ⟨ht, htext⟩ := longestMatch?_eq_some h
  refine ⟨ht, ⟨hit.rest, htext⟩, fun other tag hother hbegins => ?_⟩
  obtain ⟨found, hm, hle⟩ := exists_longestMatch? hs hother hbegins
  rw [h] at hm
  cases hm
  exact hle

theorem IsLongestWord.eq {text word word' tag tag' : Text}
    (h : lexicon.IsLongestWord text word tag) (h' : lexicon.IsLongestWord text word' tag') :
    word' = word ∧ tag' = tag := by
  have hle := h.longest word' tag' h'.listed h'.begins
  have hge := h'.longest word tag h.listed h.begins
  have hp : word' <+: word := List.prefix_of_prefix_length_le h'.begins h.begins hle
  obtain rfl : word' = word := hp.eq_of_length (by omega)
  have ht := h.listed
  rw [h'.listed] at ht
  exact ⟨rfl, Option.some.inj ht⟩

/-- The search finds the longest word. -/
theorem longestMatch?_of_isLongestWord (hs : lexicon.IsSound) {word tag rest : Text}
    (h : lexicon.IsLongestWord (word ++ rest) word tag) :
    lexicon.longestMatch? (word ++ rest) (min lexicon.longest (word ++ rest).length) =
      some ⟨word, tag, rest⟩ := by
  cases hm : lexicon.longestMatch? (word ++ rest) (min lexicon.longest (word ++ rest).length) with
  | none => exact absurd h.begins (not_begins_of_longestMatch? hs hm h.listed)
  | some hit =>
    obtain ⟨found, foundTag, after⟩ := hit
    obtain ⟨hword, htag⟩ := h.eq (isLongestWord_of_longestMatch? hs hm)
    have htext := (longestMatch?_eq_some hm).2
    simp only at hword htag htext
    subst hword htag
    rw [List.append_cancel_left htext]

theorem BeginsNone.longestMatch? {text : Text} (h : lexicon.BeginsNone text) (n : Nat) :
    lexicon.longestMatch? text n = none := by
  cases hm : lexicon.longestMatch? text n with
  | none => rfl
  | some hit =>
    obtain ⟨ht, htext⟩ := longestMatch?_eq_some hm
    exact absurd ⟨hit.rest, htext⟩ (h hit.word hit.tag ht)

/-! ## Runs -/

theorem not_isDigit_of_isAlpha {c : Char} (h : c.isAlpha = true) : c.isDigit = false := by
  have hletter : 65 ≤ c.val.toNat := by
    rcases Bool.or_eq_true_iff.mp h with h | h
    · exact UInt32.le_iff_toNat_le.mp (of_decide_eq_true h).1
    · exact Nat.le_trans (by decide : 65 ≤ 97)
        (UInt32.le_iff_toNat_le.mp (of_decide_eq_true (Bool.and_eq_true_iff.mp h).1))
  refine Bool.eq_false_iff.mpr fun hd => ?_
  have hdigit : c.val.toNat ≤ 57 :=
    UInt32.le_iff_toNat_le.mp (of_decide_eq_true (Bool.and_eq_true_iff.mp hd).2)
  omega

theorem sameRun_of_isDigit {c : Char} (h : c.isDigit = true) : sameRun c = Char.isDigit := by
  funext b
  cases hb : b.isDigit <;> simp [sameRun, h, hb, Char.isAlphanum]

theorem sameRun_of_isAlpha {c : Char} (h : c.isAlpha = true) : sameRun c = Char.isAlpha := by
  funext b
  cases hb : b.isAlpha with
  | true => simp [sameRun, not_isDigit_of_isAlpha h, not_isDigit_of_isAlpha hb, Char.isAlphanum, hb]
  | false => cases hd : b.isDigit <;> simp [sameRun, not_isDigit_of_isAlpha h, Char.isAlphanum, hb, hd]

theorem isRun_cons_takeWhile {kind : Char → Bool} {c : Char} (h : kind c = true) (rest : Text) :
    IsRun kind (c :: rest.takeWhile kind) (rest.dropWhile kind) where
  ne_nil := List.cons_ne_nil _ _
  inside d hd := by
    rcases List.mem_cons.mp hd with rfl | hd
    · exact h
    · exact List.all_eq_true.mp List.all_takeWhile d hd
  ends d hd := by
    have hhead := List.head?_dropWhile_not kind rest
    rw [Option.mem_def.mp hd] at hhead
    exact hhead

/-- A run is what the text goes on with in one kind. -/
theorem IsRun.takeWhile_eq {kind : Char → Bool} {c : Char} {run rest : Text}
    (h : IsRun kind (c :: run) rest) :
    (run ++ rest).takeWhile kind = run ∧ (run ++ rest).dropWhile kind = rest := by
  have hinside : ∀ d ∈ run, kind d = true := fun d hd => h.inside d (List.mem_cons_of_mem _ hd)
  rw [List.takeWhile_append_of_pos hinside, List.dropWhile_append_of_pos hinside]
  cases rest with
  | nil => simp
  | cons d rest => simp [h.ends d rfl]

/-! ## The pieces that a lexicon finds -/

/-- What a lexicon reports beside its words follows the rules. -/
theorem takes_of_unlistedPiece {c : Char} {rest word tag : Text}
    (hn : lexicon.BeginsNone (c :: rest)) (h : (unlistedPiece c rest).1 = some (word, tag)) :
    lexicon.Takes word tag (unlistedPiece c rest).2 := by
  have htext := unlistedPiece_append h
  unfold unlistedPiece at h htext ⊢
  by_cases hd : c.isDigit = true
  · have hc : c.isAlphanum = true := by simp [Char.isAlphanum, hd]
    simp only [hc, hd, if_true, sameRun_of_isDigit hd] at h htext ⊢
    cases h
    exact .digits (by rwa [htext]) (isRun_cons_takeWhile hd rest)
  · by_cases ha : c.isAlpha = true
    · have hc : c.isAlphanum = true := by simp [Char.isAlphanum, ha]
      simp only [hc, if_neg hd, if_true, sameRun_of_isAlpha ha] at h htext ⊢
      cases h
      exact .letters (by rwa [htext]) (isRun_cons_takeWhile ha rest)
    · have hc : c.isAlphanum = false := by simpa [Char.isAlphanum, hd] using ha
      cases hu : Unicode.isAlphanumeric c with
      | false => simp [hc, hu] at h
      | true =>
        simp only [hc, hu, if_true, Bool.false_eq_true, if_false] at h ⊢
        cases h
        exact .single hn hc hu

/-- The pieces that a lexicon finds follow the rules. -/
theorem scan_pieces (hs : lexicon.IsSound) (text : Text) : lexicon.Scan text (lexicon.pieces text) := by
  fun_induction pieces lexicon text with
  | case1 => exact .done
  | case2 c rest hit h hlt ih =>
    have hw := isLongestWord_of_longestMatch? hs h
    have htext := (longestMatch?_eq_some h).2
    rw [← htext] at hw ⊢
    exact .report (.listed hw) ih
  | case3 c rest h hlt word tag hp ih =>
    have hn : lexicon.BeginsNone (c :: rest) := fun _ _ ht => not_begins_of_longestMatch? hs h ht
    rw [← unlistedPiece_append hp]
    exact .report (takes_of_unlistedPiece hn hp) ih
  | case4 c rest h hlt hp ih =>
    rw [(unlistedPiece_eq_none hp).2] at ih ⊢
    exact .skip (isQuietAt_of_skipped hs h hp) ih

theorem pieces_of_beginsNone {c : Char} {rest : Text} (hn : lexicon.BeginsNone (c :: rest)) :
    lexicon.pieces (c :: rest) =
      ((unlistedPiece c rest).1.elim (.skipped c) fun (word, tag) => .reported word tag) ::
        lexicon.pieces (unlistedPiece c rest).2 :=
  pieces_cons_of_none (hn.longestMatch? _)

theorem Takes.ne_nil (hs : lexicon.IsSound) {word tag rest : Text}
    (h : lexicon.Takes word tag rest) : word ≠ [] := by
  cases h with
  | listed h => exact hs.ne_nil _ (mem_of_tag? h.listed)
  | letters hn hr => exact hr.ne_nil
  | digits hn hr => exact hr.ne_nil
  | single hn ha hu => exact List.cons_ne_nil _ _

/-- Whatever the rules take, the lexicon finds. -/
theorem Takes.pieces_eq (hs : lexicon.IsSound) {word tag rest : Text}
    (h : lexicon.Takes word tag rest) :
    lexicon.pieces (word ++ rest) = .reported word tag :: lexicon.pieces rest := by
  obtain ⟨c, word', rfl⟩ := List.exists_cons_of_ne_nil (h.ne_nil hs)
  cases h with
  | listed h => exact pieces_cons_of_some (longestMatch?_of_isLongestWord hs h)
  | letters hn hr =>
    have ha : c.isAlpha = true := hr.inside c List.mem_cons_self
    obtain ⟨htake, hdrop⟩ := hr.takeWhile_eq
    have hc : c.isAlphanum = true := by simp [Char.isAlphanum, ha]
    rw [List.cons_append] at hn ⊢
    rw [pieces_of_beginsNone hn]
    simp [unlistedPiece, hc, not_isDigit_of_isAlpha ha, sameRun_of_isAlpha ha, htake, hdrop]
  | digits hn hr =>
    have hd : c.isDigit = true := hr.inside c List.mem_cons_self
    obtain ⟨htake, hdrop⟩ := hr.takeWhile_eq
    have hc : c.isAlphanum = true := by simp [Char.isAlphanum, hd]
    rw [List.cons_append] at hn ⊢
    rw [pieces_of_beginsNone hn]
    simp [unlistedPiece, hc, hd, sameRun_of_isDigit hd, htake, hdrop]
  | single hn ha hu =>
    rw [List.cons_append, List.nil_append, pieces_of_beginsNone hn]
    simp [unlistedPiece, ha, hu]

theorem IsQuietAt.pieces_eq {c : Char} {rest : Text} (h : lexicon.IsQuietAt (c :: rest)) :
    lexicon.pieces (c :: rest) = .skipped c :: lexicon.pieces rest := by
  have hu : Unicode.isAlphanumeric c = false := h.no_letter c rest rfl
  have hc : c.isAlphanum = false := Bool.eq_false_iff.mpr fun hc => by
    rw [Unicode.isAlphanumeric_of_isAlphanum hc] at hu
    cases hu
  rw [pieces_of_beginsNone h.no_word]
  simp [unlistedPiece, hc, hu]

/-- The rules allow the pieces that the lexicon finds, and no others. -/
theorem scan_iff (hs : lexicon.IsSound) {text : Text} {pieces : List Piece} :
    lexicon.Scan text pieces ↔ pieces = lexicon.pieces text := by
  constructor
  · intro h
    induction h with
    | done => rw [Lexicon.pieces]
    | report h _ ih => rw [h.pieces_eq hs, ih]
    | skip h _ ih => rw [h.pieces_eq, ih]
  · rintro rfl
    exact scan_pieces hs text

/-! ## What the words cover -/

/-- The tag of a reported word: the one in the lexicon, or else the one for its kind. -/
def tagOf (lexicon : Lexicon) (word : Text) : Text :=
  (lexicon.tag? word).getD <|
    if word.all Char.isDigit then numeralTag
    else if word.all Char.isAlpha then latinTag
    else unknownTag

/-- The reported words, each with the place where it begins, when so many characters come before the
pieces. -/
def placedFrom (place : Nat) : List Piece → List (Nat × Text)
  | [] => []
  | .reported word _ :: pieces => (place, word) :: placedFrom (place + word.length) pieces
  | .skipped _ :: pieces => placedFrom (place + 1) pieces

/-- Whether a word that begins in one place covers another place. -/
def Covers (placed : Nat × Text) (place : Nat) : Prop :=
  placed.1 ≤ place ∧ place < placed.1 + placed.2.length

/-- The words of a segmentation with their places in a text. -/
structure IsCover (lexicon : Lexicon) (text : Text) (segmentation : Segmentation)
    (placed : List (Nat × Text)) : Prop where
  /-- The words are the ones that are placed, in their order. -/
  words : segmentation.words = placed.map Prod.snd
  /-- Each of them stands in its place. -/
  stands : ∀ p ∈ placed, p.2 ≠ [] ∧ p.2 <+: text.drop p.1
  /-- Each of them begins after the ones before it. -/
  disjoint : placed.Pairwise fun p q => p.1 + p.2.length ≤ q.1
  /-- A character that no word covers is not alphanumeric, and no word of the lexicon begins there.
  So the characters of every other kind are covered. -/
  uncovered : ∀ before c after, text = before ++ c :: after →
    (∀ p ∈ placed, ¬Covers p before.length) →
      Unicode.isAlphanumeric c = false ∧ lexicon.BeginsNone (c :: after)
  /-- There is one tag for each lexical word, in the same order. -/
  tags : segmentation.tags = (segmentation.words.filter Text.isLexical).map lexicon.tagOf

theorem BeginsNone.tag?_eq_none {word rest : Text} (h : lexicon.BeginsNone (word ++ rest)) :
    lexicon.tag? word = none := by
  cases ht : lexicon.tag? word with
  | none => rfl
  | some tag => exact absurd ⟨rest, rfl⟩ (h word tag ht)

/-- The tag of a word can be told without the text around it. -/
theorem Takes.tagOf_eq {word tag rest : Text} (h : lexicon.Takes word tag rest) :
    lexicon.tagOf word = tag := by
  cases h with
  | listed h => rw [tagOf, h.listed, Option.getD_some]
  | letters hn hr =>
    obtain ⟨c, hc⟩ := List.exists_mem_of_ne_nil _ hr.ne_nil
    have hdigits : word.all Char.isDigit = false :=
      List.all_eq_false.mpr ⟨c, hc, by simp [not_isDigit_of_isAlpha (hr.inside c hc)]⟩
    have hletters : word.all Char.isAlpha = true := List.all_eq_true.mpr hr.inside
    rw [tagOf, hn.tag?_eq_none, Option.getD_none, hdigits, hletters]
    rfl
  | digits hn hr =>
    have hdigits : word.all Char.isDigit = true := List.all_eq_true.mpr hr.inside
    rw [tagOf, hn.tag?_eq_none, Option.getD_none, hdigits]
    rfl
  | @single c rest hn ha hu =>
    have hnone : lexicon.tag? [c] = none := BeginsNone.tag?_eq_none hn
    obtain ⟨hletter, hdigit⟩ := Bool.or_eq_false_iff.mp ha
    simp [tagOf, hnone, hletter, hdigit]

theorem words_segmentationOf (pieces : List Piece) (place : Nat) :
    (segmentationOf pieces).words = (placedFrom place pieces).map Prod.snd := by
  induction pieces generalizing place with
  | nil => rfl
  | cons piece pieces ih =>
    cases piece with
    | reported word tag => simp [segmentationOf, report, placedFrom, ih (place + word.length)]
    | skipped c => exact ih (place + 1)

theorem le_of_mem_placedFrom {place : Nat} {pieces : List Piece} {p : Nat × Text}
    (h : p ∈ placedFrom place pieces) : place ≤ p.1 := by
  induction pieces generalizing place with
  | nil => cases h
  | cons piece pieces ih =>
    cases piece with
    | reported word tag =>
      rcases List.mem_cons.mp h with rfl | h
      · exact Nat.le_refl _
      · exact Nat.le_trans (Nat.le_add_right _ _) (ih h)
    | skipped c => exact Nat.le_trans (Nat.le_add_right _ _) (ih h)

theorem pairwise_placedFrom (pieces : List Piece) (place : Nat) :
    (placedFrom place pieces).Pairwise fun p q => p.1 + p.2.length ≤ q.1 := by
  induction pieces generalizing place with
  | nil => exact List.Pairwise.nil
  | cons piece pieces ih =>
    cases piece with
    | reported word tag => exact List.pairwise_cons.mpr ⟨fun _ => le_of_mem_placedFrom, ih _⟩
    | skipped c => exact ih _

/-- A word stands in its place, also when the text is the end of a longer one. -/
theorem Scan.stands (hs : lexicon.IsSound) {text : Text} {pieces : List Piece}
    (h : lexicon.Scan text pieces) (front : Text) :
    ∀ p ∈ placedFrom front.length pieces, p.2 ≠ [] ∧ p.2 <+: (front ++ text).drop p.1 := by
  induction h generalizing front with
  | done => simp [placedFrom]
  | @report word tag rest pieces ht _ ih =>
    intro p hp
    rcases List.mem_cons.mp hp with rfl | hp
    · exact ⟨ht.ne_nil hs, by simp⟩
    · have hrest := ih (front ++ word)
      rw [List.length_append, List.append_assoc] at hrest
      exact hrest p hp
  | @skip c rest pieces _ _ ih =>
    have hrest := ih (front ++ [c])
    rw [List.length_append, List.append_assoc] at hrest
    exact hrest

/-- Nothing begins at a character that no word covers. -/
theorem Scan.isQuietAt {text : Text} {pieces : List Piece} (h : lexicon.Scan text pieces)
    (place : Nat) {before : Text} {c : Char} {after : Text} (htext : text = before ++ c :: after)
    (hu : ∀ p ∈ placedFrom place pieces, ¬Covers p (place + before.length)) :
    lexicon.IsQuietAt (c :: after) := by
  induction h generalizing place before with
  | done => simp at htext
  | @report word tag rest pieces _ _ ih =>
    have hword : ¬Covers (place, word) (place + before.length) := hu _ List.mem_cons_self
    have hle : word.length ≤ before.length := by
      simp only [Covers] at hword
      omega
    obtain ⟨before', rfl⟩ : word <+: before :=
      List.prefix_of_prefix_length_le ⟨rest, htext⟩ ⟨_, rfl⟩ hle
    rw [List.append_assoc, List.append_cancel_left_eq] at htext
    refine ih (place + word.length) htext fun p hp => ?_
    have hnot := hu p (List.mem_cons_of_mem _ hp)
    rwa [List.length_append, ← Nat.add_assoc] at hnot
  | @skip d rest pieces hq _ ih =>
    cases before with
    | nil =>
      rw [List.nil_append] at htext
      rwa [← htext]
    | cons e before =>
      refine ih (place + 1) (List.cons.inj htext).2 fun p hp => ?_
      have hnot := hu p hp
      rwa [List.length_cons, Nat.add_comm before.length, ← Nat.add_assoc] at hnot

theorem Scan.tags_eq {text : Text} {pieces : List Piece} (h : lexicon.Scan text pieces) :
    (segmentationOf pieces).tags =
      ((segmentationOf pieces).words.filter Text.isLexical).map lexicon.tagOf := by
  induction h with
  | done => rfl
  | @report word tag rest pieces ht _ ih =>
    by_cases hw : word.isLexical = true
    · simp [segmentationOf, Lexicon.report, hw, ih, ht.tagOf_eq]
    · simp [segmentationOf, Lexicon.report, hw, ih]
  | skip _ _ ih => exact ih

/-- The words of a scan are disjoint pieces of the text, and nothing begins outside of them. -/
theorem Scan.isCover (hs : lexicon.IsSound) {text : Text} {pieces : List Piece}
    (h : lexicon.Scan text pieces) :
    lexicon.IsCover text (segmentationOf pieces) (placedFrom 0 pieces) where
  words := words_segmentationOf pieces 0
  stands := h.stands hs []
  disjoint := pairwise_placedFrom pieces 0
  uncovered before c after htext hu := by
    have hq := h.isQuietAt 0 htext (by simpa using hu)
    exact ⟨hq.no_letter c after rfl, hq.no_word⟩
  tags := h.tags_eq

end Lexicon

namespace LexiconSegmenter

open Lexicon

/-- **Greedy longest match.** A loaded segmenter with a lexicon that was read answers every chunk
with the words and tags of the one scan that the rules allow. So its words are disjoint pieces of
the chunk in their order; what they leave out are characters that are not alphanumeric and at which
no word of the lexicon begins; and there is one tag for each lexical word. -/
theorem segment_scans {document : Text} {segmenter : LexiconSegmenter}
    (h : Lexicon.read document = .ok segmenter.lexicon) (hl : segmenter.isLoaded = true)
    (chunk : Text) :
    ∃ pieces, segmenter.segment chunk = .ok (segmentationOf pieces) ∧
      (∀ other, segmenter.lexicon.Scan chunk other ↔ other = pieces) ∧
      segmenter.lexicon.IsCover chunk (segmentationOf pieces) (placedFrom 0 pieces) := by
  have hs := Lexicon.read_isSound h
  refine ⟨segmenter.lexicon.pieces chunk, ?_, fun other => scan_iff hs,
    (scan_pieces hs chunk).isCover hs⟩
  rw [segment, if_pos hl, segment_eq]

/-- With a word that is empty, one that ends in a full stop, and one that is longer than the chunk.
The full stop of the word is covered, and the one after it is not. -/
theorem segment_scans_stop :
    let document := "[words]\n\"\" = \"n\"\n\"好\" = \"a\"\n\"好的。\" = \"l\"\n\"好的。。吗\" = \"z\"\n".toList
    ∃ segmenter : LexiconSegmenter, Lexicon.read document = .ok segmenter.lexicon ∧
      segmenter.isLoaded = true ∧ ∃ pieces,
        segmenter.segment "好好的。。ab12".toList = .ok (segmentationOf pieces) ∧
        segmentationOf pieces = ⟨["好".toList, "好的。".toList, "ab".toList, "12".toList],
          [['a'], ['l'], latinTag, numeralTag]⟩ ∧
        segmenter.lexicon.Scan "好好的。。ab12".toList pieces ∧
        segmenter.lexicon.IsCover "好好的。。ab12".toList (segmentationOf pieces)
          (placedFrom 0 pieces) := by
  intro document
  let segmenter : LexiconSegmenter :=
    ⟨⟨[("好".toList, ['a']), ("好的。".toList, ['l']), ("好的。。吗".toList, ['z'])], [], 5⟩, true⟩
  have h : Lexicon.read document = .ok segmenter.lexicon := by decide +kernel
  obtain ⟨pieces, hsegment, hscan, hcover⟩ := segment_scans h rfl "好好的。。ab12".toList
  have hanswer : segmenter.segment "好好的。。ab12".toList =
      .ok ⟨["好".toList, "好的。".toList, "ab".toList, "12".toList],
        [['a'], ['l'], latinTag, numeralTag]⟩ := by decide +kernel
  exact ⟨segmenter, h, rfl, pieces, hsegment,
    Except.ok.inj (hsegment.symm.trans hanswer), (hscan pieces).mpr rfl, hcover⟩

end LexiconSegmenter

end Hanyu
