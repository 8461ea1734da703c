import Hanyu.Attempt
import Hanyu.Proofs.Overtaking
import Mathlib.Data.List.Perm.Subperm

/-!
# Tags and the words they are given for

A segmenter gives one tag for every lexical word, and weaving may drop some of the words. Tags are
put on tokens by counting alone; still none gets to the wrong word.

* `lexicalWords_layout_sublist`: the lexical tokens are lexical words in their order.
* `filter_assignTags`, `filter_not_assignTags`: what tagging does with the lexical tokens and with
  the others.
* `emits_iff`: every lexical word is emitted exactly when no one is missing among the tokens.
* `attach_weave`: tags are attached exactly then, each to the word that it was given for.
-/

namespace Hanyu.Segmentation

/-- Tags tokens in place. Tokens that cannot be tagged stay as they are. -/
def attach (tags : List Text) : Attempt Fault (List Token) Unit := fun tokens =>
  match attachTags tokens tags with
  | .ok tagged => (.ok (), tagged)
  | .error fault => (.error fault, tokens)

/-- Every lexical word comes out as a token, as often as it is among the words. -/
def Emits (chunk : Text) (words : List Text) : Prop :=
  ∀ word, (words.filter Text.isLexical).count word ≤
    (((weave chunk words).filter Token.isLexical).map Token.surface).count word

/-- How tokens are tagged for some words. -/
structure IsTagged (words tags : List Text) (tokens tagged : List Token) : Prop where
  /-- The lexical tokens are the lexical words in their order, each with the tag in its place. -/
  lexical : tagged.filter Token.isLexical =
    List.zipWith (fun word tag => (Token.lexical word).tagged tag) (words.filter Text.isLexical) tags
  /-- The others are left alone, and have no tag. -/
  filler : (tagged.filter fun token => !token.isLexical) = tokens.filter fun token => !token.isLexical
  untagged : ∀ token ∈ tagged, token.isLexical = false → token.tag = none
  /-- Nothing but tags is changed. -/
  spans : (tagged.map fun token => { token with tag := none }) = tokens

/-! ## Tagging -/

theorem assignTags_cons_of_not {token : Token} (h : token.isLexical = false) (tokens : List Token)
    (tags : List Text) : assignTags (token :: tokens) tags = token :: assignTags tokens tags := by
  cases tags with
  | nil => simp only [assignTags_nil]
  | cons tag tags => simp [assignTags, h]

/-- The lexical tokens get the tags in order. -/
theorem filter_assignTags {tokens : List Token} {tags : List Text}
    (h : tags.length = tokens.countP Token.isLexical) :
    (assignTags tokens tags).filter Token.isLexical =
      List.zipWith Token.tagged (tokens.filter Token.isLexical) tags := by
  induction tokens generalizing tags with
  | nil => rfl
  | cons token tokens ih =>
    cases hl : token.isLexical with
    | false =>
      rw [List.countP_cons_of_neg (by simp [hl])] at h
      rw [assignTags_cons_of_not hl, List.filter_cons_of_neg (by simp [hl]),
        List.filter_cons_of_neg (by simp [hl]), ih h]
    | true =>
      rw [List.countP_cons_of_pos hl] at h
      cases tags with
      | nil => simp at h
      | cons tag tags =>
        have ht : (token.tagged tag).isLexical = true := hl
        rw [assignTags, if_pos hl, List.filter_cons_of_pos hl, List.zipWith_cons_cons,
          ← ih (by simpa using h)]
        exact List.filter_cons_of_pos ht

/-- The others are left alone. -/
theorem filter_not_assignTags (tokens : List Token) (tags : List Text) :
    ((assignTags tokens tags).filter fun token => !token.isLexical) =
      tokens.filter fun token => !token.isLexical := by
  fun_induction assignTags tokens tags with
  | case1 => rfl
  | case2 => rfl
  | case3 token tokens tag tags hl ih => simp [hl, ih]
  | case4 token tokens tag tags hl ih => simp [hl, ih]

theorem map_untagged_assignTags {tokens : List Token} (h : ∀ token ∈ tokens, token.tag = none)
    (tags : List Text) :
    ((assignTags tokens tags).map fun token => { token with tag := none }) = tokens := by
  have hid : (tokens.map fun token => { token with tag := none }) = tokens := by
    refine (List.map_congr_left fun token ht => ?_).trans (List.map_id _)
    rw [← h token ht, id_eq]
  refine Eq.trans ?_ hid
  fun_induction assignTags tokens tags <;> simp_all

/-! ## The words that weaving emits -/

theorem tag_of_mem_weave {chunk : Text} {words : List Text} {token : Token}
    (h : token ∈ weave chunk words) : token.tag = none := by
  rw [weave_eq_tokens] at h
  rcases Layout.mem_tokensFrom h with ⟨word, -, rfl⟩ | ⟨gap, -, rfl⟩ <;> rfl

theorem surface_filter_weave (chunk : Text) (words : List Text) :
    ((weave chunk words).filter Token.isLexical).map Token.surface =
      (layout chunk words).lexicalWords := by
  rw [filter_weave, List.map_map]
  exact List.map_id _

/-- What weaving emits are lexical words in their order. -/
theorem lexicalWords_layout_sublist (chunk : Text) (words : List Text) :
    (layout chunk words).lexicalWords.Sublist (words.filter Text.isLexical) := by
  refine (lexicalWords_find_sublist chunk _).trans ?_
  exact List.filter_sublist.filter _

/-- Every lexical word is emitted exactly when none is missing. -/
theorem emits_iff {chunk : Text} {words : List Text} :
    Emits chunk words ↔ (layout chunk words).lexicalWords = words.filter Text.isLexical := by
  have hs := lexicalWords_layout_sublist chunk words
  unfold Emits
  rw [surface_filter_weave]
  constructor
  · intro h
    have hp : (words.filter Text.isLexical).Subperm (layout chunk words).lexicalWords :=
      List.subperm_ext_iff.mpr fun word _ => h word
    exact hs.eq_of_length_le hp.length_le
  · intro h word
    exact Nat.le_of_eq (congrArg (List.count word) h.symm)

/-- There are as many lexical tokens as lexical words exactly when all of them are emitted. -/
theorem countP_weave_eq_iff {chunk : Text} {words : List Text} :
    (weave chunk words).countP Token.isLexical = (words.filter Text.isLexical).length ↔
      Emits chunk words := by
  rw [countP_weave, emits_iff]
  exact ⟨(lexicalWords_layout_sublist chunk words).eq_of_length, congrArg List.length⟩

theorem isTagged_of_emits {chunk : Text} {words tags : List Text}
    (h : tags.length = (words.filter Text.isLexical).length) (he : Emits chunk words) :
    IsTagged words tags (weave chunk words) (assignTags (weave chunk words) tags) := by
  have hn : tags.length = (weave chunk words).countP Token.isLexical := by
    rw [h, countP_weave_eq_iff.mpr he]
  constructor
  · rw [filter_assignTags hn, filter_weave, emits_iff.mp he, List.zipWith_map_left]
  · exact filter_not_assignTags _ _
  · intro token ht hl
    obtain ⟨t, hm, ⟨-, rfl⟩ | ⟨hlt, tag, -, rfl⟩⟩ := mem_assignTags hn ht
    · exact tag_of_mem_weave hm
    · cases hlt.symm.trans hl
  · exact map_untagged_assignTags (fun token ht => tag_of_mem_weave ht) tags

/-- **No tag gets to another word.** When a segmenter gives one tag for every lexical word, the tags
are attached exactly when every lexical word has come out as a token; then each is on the word that
it was given for, and filler has none. Otherwise the answer is inconsistent, and the tokens stay as
they are. -/
theorem attach_weave {chunk : Text} {words tags : List Text}
    (h : tags.length = (words.filter Text.isLexical).length) :
    ((attach tags (weave chunk words)).1 = .ok () ↔ Emits chunk words) ∧
      ((attach tags (weave chunk words)).1 = .ok () →
        IsTagged words tags (weave chunk words) (attach tags (weave chunk words)).2) ∧
      (¬Emits chunk words → ∃ emitted < tags.length,
        attach tags (weave chunk words) =
          (.error (.consistency (.tags tags.length emitted)), weave chunk words)) := by
  by_cases he : Emits chunk words
  · have hn : tags.length = (weave chunk words).countP Token.isLexical := by
      rw [h, countP_weave_eq_iff.mpr he]
    have ha : attach tags (weave chunk words) = (.ok (), assignTags (weave chunk words) tags) := by
      simp only [attach, attachTags, if_pos hn]
    rw [ha]
    exact ⟨⟨fun _ => he, fun _ => rfl⟩, fun _ => isTagged_of_emits h he, fun hne => absurd he hne⟩
  · have hle : (weave chunk words).countP Token.isLexical ≤ tags.length := by
      rw [countP_weave, h]
      exact (lexicalWords_layout_sublist chunk words).length_le
    have hne : tags.length ≠ (weave chunk words).countP Token.isLexical := fun hn =>
      he (countP_weave_eq_iff.mp (by rw [← hn, h]))
    have ha : attach tags (weave chunk words) =
        (.error (.consistency (.tags tags.length ((weave chunk words).countP Token.isLexical))),
          weave chunk words) := by
      simp only [attach, attachTags, if_neg hne]
    rw [ha]
    refine ⟨⟨fun hok => ?_, fun hok => absurd hok he⟩, fun hok => ?_, fun _ => ⟨_, by omega, rfl⟩⟩
    · cases hok
    · cases hok

/-- Words that overlap, are repeated, empty, missing or punctuation: all lexical ones are found in
the first chunk, and in the second one the repeated word is missing. -/
theorem attach_weave_repeated :
    let words := ["好".toList, [], "，".toList, "ab".toList, "好".toList]
    let tags := [['a'], ['b'], ['c']]
    let tagged := [(Token.lexical ['好']).tagged ['a'], .filler ['，'],
      (Token.lexical ['a', 'b']).tagged ['b'], .filler [' '],
      (Token.lexical ['好']).tagged ['c'], .filler ['吗']]
    attach tags (weave "好，ab 好吗".toList words) = (.ok (), tagged) ∧
      Emits "好，ab 好吗".toList words ∧ IsTagged words tags (weave "好，ab 好吗".toList words) tagged ∧
        ¬Emits "好，ab吗".toList words ∧
          attach tags (weave "好，ab吗".toList words) =
            (.error (.consistency (.tags 3 2)), weave "好，ab吗".toList words) := by
  intro words tags tagged
  have hl : tags.length = (words.filter Text.isLexical).length := by decide +kernel
  have h₁ : attach tags (weave "好，ab 好吗".toList words) = (.ok (), tagged) := by decide +kernel
  have h₂ : attach tags (weave "好，ab吗".toList words) =
      (.error (.consistency (.tags 3 2)), weave "好，ab吗".toList words) := by decide +kernel
  obtain ⟨hiff₁, htagged, -⟩ := @attach_weave "好，ab 好吗".toList words tags hl
  obtain ⟨hiff₂, -, -⟩ := @attach_weave "好，ab吗".toList words tags hl
  rw [h₁] at hiff₁ htagged
  rw [h₂] at hiff₂
  exact ⟨h₁, hiff₁.mp rfl, htagged rfl, fun he => (nomatch hiff₂.mpr he), h₂⟩

end Hanyu.Segmentation
