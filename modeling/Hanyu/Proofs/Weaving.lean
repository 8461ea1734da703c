import Hanyu.Proofs.Attribution
import Mathlib.Data.List.Chain

/-!
# Weaving round by round

Weaving can be done in place: a cursor goes over the chunk, another one over the words, and what has
been read since the last lexical word waits to become filler. A round moves one of the cursors or
both. Where the next word is found further on, only the one over the text is moved, and the word is
not used up until the round after.

* `Loom.Round`: the five things that a round can do.
* `Loom.outcome_of_round`, `Loom.measure_lt_of_round`: a round leaves alone what comes out in the
  end, and something is used up.
* `Loom.exists_runs`: so the rounds come to an end.
* `Layout.isChain_tokensFrom`: two tokens in a row are never both filler.
* `weave_rounds`: the rounds give the tokens of `weave`, and what these are.
-/

namespace Hanyu

/-! ## Layouts of nothing, and filler in a row -/

namespace Layout

open Segmentation

/-- What waits before a text of nothing becomes filler. -/
theorem tokensFrom_of_text_eq_nil {layout : Layout} (h : layout.text = []) (before : Text) :
    layout.tokensFrom before = fillGap before := by
  induction layout generalizing before with
  | rest text =>
    obtain rfl : text = [] := h
    rw [tokensFrom, List.append_nil]
  | next gap word later ih =>
    simp only [text, List.append_eq_nil_iff] at h
    obtain ⟨⟨rfl, rfl⟩, hl⟩ := h
    simp [tokensFrom, ih hl]

/-- Between two gaps there is a lexical word. -/
theorem isChain_tokensFrom (layout : Layout) (before : Text) :
    (layout.tokensFrom before).IsChain fun a b => a.isLexical = true ∨ b.isLexical = true := by
  induction layout generalizing before with
  | rest text =>
    rw [tokensFrom, fillGap]
    split <;> simp
  | next gap word later ih =>
    by_cases hw : word.isLexical = true
    · have hlexical : (Token.lexical word :: later.tokensFrom []).IsChain
          fun a b => a.isLexical = true ∨ b.isLexical = true :=
        List.isChain_cons.mpr ⟨fun _ _ => .inl rfl, ih []⟩
      rw [tokensFrom, if_pos hw, fillGap]
      split
      · exact hlexical
      · exact List.isChain_cons_cons.mpr ⟨.inr rfl, hlexical⟩
    · rw [tokensFrom, if_neg hw]
      exact ih _

end Layout

namespace Segmentation

/-- The words before the first one with which the text begins make no difference. -/
theorem matchHere?_dropWhile (text : Text) (words : List Text) :
    matchHere? text (words.dropWhile fun word => !text.beginsWith word) =
      matchHere? text words := by
  induction words with
  | nil => rfl
  | cons word later ih =>
    cases h : text.rest? word with
    | some rest => simp [Text.beginsWith, h]
    | none =>
      rw [List.dropWhile_cons_of_pos (by simp [Text.beginsWith, h]), ih]
      simp [matchHere?, h]

/-! ## Where a layout begins -/

variable {text word rest : Text} {later : List Text}

theorem find_of_rest? (h : text.rest? word = some rest) :
    Layout.find text (word :: later) = .next [] word (.find rest later) := by
  have hn : nextMatch? text word later = some ⟨[], word, rest, later⟩ := by
    simp [nextMatch?, matchHere?, h]
  rw [Layout.find_cons_of_some hn]

/-- Words are passed over up to the first one with which the text begins. -/
theorem find_of_dropWhile {here : Text} {more : List Text} (h : text.rest? word = none)
    (hd : (later.dropWhile fun word => !text.beginsWith word) = here :: more) :
    Layout.find text (word :: later) = .find text (here :: more) := by
  have hhere : text.beginsWith here = true := by
    have hhead := List.head?_dropWhile_not (fun word => !text.beginsWith word) later
    simpa [hd] using hhead
  obtain ⟨rest, hr⟩ := Option.isSome_iff_exists.mp hhere
  have hmore : matchHere? text (here :: more) = some ⟨[], here, rest, more⟩ := by
    simp [matchHere?, hr]
  have hlater : matchHere? text (word :: later) = some ⟨[], here, rest, more⟩ := by
    rw [matchHere?, h, ← matchHere?_dropWhile, hd]
    exact hmore
  have hn : nextMatch? text word later = some ⟨[], here, rest, more⟩ := by rw [nextMatch?, hlater]
  rw [Layout.find_cons_of_some hn, find_of_rest? hr]

theorem find_of_cut? {gap : Text} (h : matchHere? text (word :: later) = none)
    (hc : text.cut? word = some (gap, rest)) :
    Layout.find text (word :: later) = .next gap word (.find rest later) := by
  have hn : nextMatch? text word later = some ⟨gap, word, rest, later⟩ := by
    rw [nextMatch?, h, hc]
    rfl
  rw [Layout.find_cons_of_some hn]

theorem find_of_cut?_eq_none (h : matchHere? text (word :: later) = none)
    (hc : text.cut? word = none) : Layout.find text (word :: later) = .find text later := by
  refine Layout.find_cons_of_none ?_
  rw [nextMatch?, h, hc]
  rfl

/-! ## Rounds -/

/-- What weaving has come to. -/
structure Loom where
  /-- The tokens so far. -/
  woven : List Token
  /-- The text that has been read since the last of them. -/
  gap : Text
  /-- The text after the cursor. -/
  text : Text
  /-- The words that are still to be found. -/
  words : List Text

namespace Loom

/-- The loom before the first round. Empty words are not looked for. -/
def start (chunk : Text) (words : List Text) : Loom :=
  ⟨[], [], chunk, words.filter fun word => !word.isEmpty⟩

/-- The loom after a round, or nothing when there is no text or no word left. -/
def round? (loom : Loom) : Option Loom :=
  match loom.words with
  | [] => none
  | word :: later =>
    if loom.text = [] then none
    else
      match loom.text.rest? word with
      | some rest =>
        if word.isLexical then
          some ⟨loom.woven ++ (fillGap loom.gap ++ [Token.lexical word]), [], rest, later⟩
        else some ⟨loom.woven, loom.gap ++ word, rest, later⟩
      | none =>
        match later.dropWhile fun word => !loom.text.beginsWith word with
        | here :: later => some { loom with words := here :: later }
        | [] =>
          match loom.text.cut? word with
          | some (gap, _) =>
            some { loom with gap := loom.gap ++ gap, text := loom.text.drop gap.length }
          | none => some { loom with words := later }

/-- The tokens when no further round is made: what is left is filler. -/
def finish (loom : Loom) : List Token := loom.woven ++ fillGap (loom.gap ++ loom.text)

/-- What a round does. -/
inductive Round : Loom → Loom → Prop
  /-- A lexical word is where the cursor is. -/
  | lexical {woven gap text word rest later} (hr : text.rest? word = some rest)
      (hw : word.isLexical = true) :
      Round ⟨woven, gap, text, word :: later⟩
        ⟨woven ++ (fillGap gap ++ [Token.lexical word]), [], rest, later⟩
  /-- Another word is where the cursor is, and becomes filler. -/
  | filler {woven gap text word rest later} (hr : text.rest? word = some rest)
      (hw : ¬word.isLexical = true) :
      Round ⟨woven, gap, text, word :: later⟩ ⟨woven, gap ++ word, rest, later⟩
  /-- A later word is where the cursor is, and the words before it are dropped. -/
  | overtake {woven gap text word later here more} (hr : text.rest? word = none)
      (hd : (later.dropWhile fun word => !Text.beginsWith text word) = here :: more) :
      Round ⟨woven, gap, text, word :: later⟩ ⟨woven, gap, text, here :: more⟩
  /-- The cursor goes to the next occurrence of the word. -/
  | advance {woven gap text word later skipped rest}
      (hm : matchHere? text (word :: later) = none)
      (hc : text.cut? word = some (skipped, rest)) :
      Round ⟨woven, gap, text, word :: later⟩ ⟨woven, gap ++ skipped, word ++ rest, word :: later⟩
  /-- The word does not occur any more, and is dropped. -/
  | drop {woven gap text word later} (hm : matchHere? text (word :: later) = none)
      (hc : text.cut? word = none) :
      Round ⟨woven, gap, text, word :: later⟩ ⟨woven, gap, text, later⟩

/-- The rounds from a loom to the last one, and their number. -/
inductive Runs : Loom → Nat → Loom → Prop
  | stop {loom : Loom} (h : loom.round? = none) : Runs loom 0 loom
  | round {loom next last : Loom} {n : Nat} (h : loom.round? = some next) (hr : Runs next n last) :
      Runs loom (n + 1) last

/-- What comes out in the end. -/
def outcome (loom : Loom) : List Token :=
  loom.woven ++ (Layout.find loom.text loom.words).tokensFrom loom.gap

/-- The number of rounds that can follow: for every word one to find it and one to use it up, and
for the first word only the latter when it has been found. -/
def measure (loom : Loom) : Nat :=
  2 * loom.words.length - if loom.words.head?.any loom.text.beginsWith then 1 else 0

variable {loom next : Loom}

theorem round_of_round? (h : loom.round? = some next) : Round loom next := by
  obtain ⟨woven, before, text, words⟩ := loom
  cases words with
  | nil => cases h
  | cons word later =>
    simp only [round?] at h
    split at h
    · cases h
    split at h
    · rename_i rest hr
      split at h
      · rename_i hw
        cases h
        exact .lexical hr hw
      · rename_i hw
        cases h
        exact .filler hr hw
    rename_i hr
    split at h
    · rename_i here more hd
      cases h
      exact .overtake hr hd
    rename_i hd
    have hm : matchHere? text (word :: later) = none := by
      rw [matchHere?, hr, ← matchHere?_dropWhile, hd]
      rfl
    split at h
    · rename_i skipped rest hc
      cases h
      have hdrop : text.drop skipped.length = word ++ rest := by
        rw [Text.cut?_eq_some hc, List.append_assoc, List.drop_left]
      rw [hdrop]
      exact .advance hm hc
    · rename_i hc
      cases h
      exact .drop hm hc

/-- A round leaves alone what comes out in the end. -/
theorem outcome_of_round (h : Round loom next) : next.outcome = loom.outcome := by
  cases h with
  | lexical hr hw => simp [outcome, find_of_rest? hr, Layout.tokensFrom, hw]
  | filler hr hw => simp [outcome, find_of_rest? hr, Layout.tokensFrom, hw]
  | overtake hr hd => simp [outcome, find_of_dropWhile hr hd]
  | advance hm hc =>
    simp [outcome, find_of_cut? hm hc, find_of_rest? (Text.rest?_append _ _), Layout.tokensFrom]
  | drop hm hc => simp [outcome, find_of_cut?_eq_none hm hc]

theorem measure_of_words_lt (h : next.words.length < loom.words.length) :
    next.measure < loom.measure := by
  unfold measure
  split <;> split <;> omega

/-- A round uses something up. -/
theorem measure_lt_of_round (h : Round loom next) : next.measure < loom.measure := by
  cases h with
  | lexical hr hw => exact measure_of_words_lt (Nat.lt_succ_self _)
  | filler hr hw => exact measure_of_words_lt (Nat.lt_succ_self _)
  | overtake hr hd =>
    refine measure_of_words_lt (Nat.lt_succ_of_le ?_)
    rw [← hd]
    exact (List.dropWhile_sublist _).length_le
  | @advance woven gap text word later skipped rest hm hc =>
    -- No word is used up, but now the first one is where the cursor is.
    have hr : text.rest? word = none := by
      rw [Text.rest?_eq_none_iff]
      exact matchHere?_eq_none_iff.mp hm word List.mem_cons_self
    have hbefore : measure ⟨woven, gap, text, word :: later⟩ = 2 * (later.length + 1) := by
      simp [measure, Text.beginsWith, hr]
    have hafter : measure ⟨woven, gap ++ skipped, word ++ rest, word :: later⟩ =
        2 * (later.length + 1) - 1 := by
      simp [measure, Text.beginsWith]
    omega
  | drop hm hc => exact measure_of_words_lt (Nat.lt_succ_self _)

/-- When no round can be made, what is left is filler. -/
theorem finish_eq_outcome (h : loom.round? = none) : loom.finish = loom.outcome := by
  obtain ⟨woven, before, text, words⟩ := loom
  cases words with
  | nil => rw [outcome, Layout.find_nil, Layout.tokensFrom, finish]
  | cons word later =>
    obtain rfl : text = [] := by
      by_contra ht
      simp only [round?, if_neg ht] at h
      repeat' split at h
      all_goals cases h
    rw [outcome, Layout.tokensFrom_of_text_eq_nil (Layout.text_find _ _), finish, List.append_nil]

/-- The rounds come to an end, and what comes out then has been settled from the beginning. -/
theorem exists_runs (loom : Loom) :
    ∃ n last, n ≤ loom.measure ∧ Runs loom n last ∧ last.finish = loom.outcome := by
  induction hm : loom.measure using Nat.strong_induction_on generalizing loom with
  | _ m ih =>
    cases h : loom.round? with
    | none => exact ⟨0, loom, Nat.zero_le _, .stop h, finish_eq_outcome h⟩
    | some next =>
      have hround := round_of_round? h
      have hlt := measure_lt_of_round hround
      obtain ⟨n, last, hn, hruns, hlast⟩ := ih next.measure (hm ▸ hlt) next rfl
      exact ⟨n + 1, last, by omega, .round h hruns, hlast.trans (outcome_of_round hround)⟩

theorem outcome_start (chunk : Text) (words : List Text) :
    (start chunk words).outcome = weave chunk words := by
  rw [weave_eq_tokens]
  rfl

theorem measure_start_le (chunk : Text) (words : List Text) :
    (start chunk words).measure ≤ 2 * words.length := by
  have hle := List.length_filter_le (fun word : Text => !word.isEmpty) words
  simp only [measure, start]
  omega

end Loom

/-! ## The tokens of a chunk -/

/-- What the tokens of a chunk are. -/
structure IsWoven (chunk : Text) (words : List Text) (tokens : List Token) : Prop where
  /-- Put together they are the chunk. -/
  surface : tokens.flatMap Token.surface = chunk
  ne_nil : ∀ token ∈ tokens, token.surface ≠ []
  /-- Of two in a row, one is lexical. -/
  isChain : tokens.IsChain fun a b => a.isLexical = true ∨ b.isLexical = true
  /-- A lexical token carries a letter, a numeral or an ideograph. -/
  isLexical : ∀ token ∈ tokens, token.isLexical = true → token.surface.isLexical = true
  /-- The lexical tokens are some of the lexical words, each at most once and in their order. -/
  sublist : ((tokens.filter Token.isLexical).map Token.surface).Sublist
    (words.filter Text.isLexical)

theorem isWoven_weave (chunk : Text) (words : List Text) :
    IsWoven chunk words (weave chunk words) where
  surface := surface_weave chunk words
  ne_nil token h := by
    rw [weave_eq_tokens] at h
    rcases Layout.mem_tokensFrom h with ⟨word, hw, rfl⟩ | ⟨gap, hg, rfl⟩
    · exact Text.ne_nil_of_isLexical (List.mem_filter.mp hw).2
    · exact hg
  isChain := by
    rw [weave_eq_tokens]
    exact Layout.isChain_tokensFrom _ []
  isLexical token h hl := by
    rw [weave_eq_tokens] at h
    rcases Layout.mem_tokensFrom h with ⟨word, hw, rfl⟩ | ⟨gap, -, rfl⟩
    · exact (List.mem_filter.mp hw).2
    · cases hl
  sublist := by
    rw [surface_filter_weave]
    exact lexicalWords_layout_sublist chunk words

/-- **Weaving.** For every chunk and all words, the rounds of the loom come to an end after at most
two for every word, with the tokens of the chunk: none of them is empty, filler is never followed by
filler, and the lexical ones are lexical words in their order. -/
theorem weave_rounds (chunk : Text) (words : List Text) :
    (∃ n last, n ≤ 2 * words.length ∧ Loom.Runs (.start chunk words) n last ∧
      last.finish = weave chunk words) ∧ IsWoven chunk words (weave chunk words) := by
  refine ⟨?_, isWoven_weave chunk words⟩
  obtain ⟨n, last, hn, hruns, hlast⟩ := Loom.exists_runs (.start chunk words)
  exact ⟨n, last, Nat.le_trans hn (Loom.measure_start_le chunk words), hruns,
    hlast.trans (Loom.outcome_start chunk words)⟩

end Segmentation

end Hanyu
