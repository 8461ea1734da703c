import Hanyu.Proofs.Layout

/-!
# Tags

Tags go to the lexical tokens in order, and there must be as many.

* `attachTags_eq_ok_iff`: tokens are tagged exactly when there are as many tags as lexical tokens.
* `mem_assignTags`: then every lexical token has a tag, and the others are left alone.
* `countP_weave`: there are as many as lexical words that weaving finds.
-/

namespace Hanyu.Segmentation

theorem attachTags_eq_ok_iff {tokens tagged : List Token} {tags : List Text} :
    attachTags tokens tags = .ok tagged ↔
      tags.length = tokens.countP Token.isLexical ∧ tagged = assignTags tokens tags := by
  simp only [attachTags]
  split
  · rename_i h
    simp [h, eq_comm]
  · rename_i h
    simp [h]

theorem assignTags_nil (tokens : List Token) : assignTags tokens [] = tokens := by
  cases tokens <;> rfl

theorem assignTags_lexical (word tag : Text) (tokens : List Token) (tags : List Text) :
    assignTags (.lexical word :: tokens) (tag :: tags) =
      (Token.lexical word).tagged tag :: assignTags tokens tags := rfl

theorem assignTags_fillGap_append (gap : Text) (tokens : List Token) (tags : List Text) :
    assignTags (fillGap gap ++ tokens) tags = fillGap gap ++ assignTags tokens tags := by
  unfold fillGap
  split
  · rfl
  · cases tags with
    | nil => simp [assignTags_nil]
    | cons tag tags => simp [assignTags, Token.filler]

theorem countP_weave (chunk : Text) (words : List Text) :
    (weave chunk words).countP Token.isLexical = (layout chunk words).lexicalWords.length := by
  rw [List.countP_eq_length_filter, filter_weave, List.length_map]

/-- Every lexical token has a tag, and the others are left alone. -/
theorem mem_assignTags {tokens : List Token} {tags : List Text} {token : Token}
    (hn : tags.length = tokens.countP Token.isLexical) (h : token ∈ assignTags tokens tags) :
    ∃ t ∈ tokens, (t.isLexical = false ∧ token = t) ∨
      (t.isLexical = true ∧ ∃ tag ∈ tags, token = t.tagged tag) := by
  induction tokens generalizing tags with
  | nil => simp [assignTags] at h
  | cons first rest ih =>
    cases hl : first.isLexical with
    | false =>
      rw [List.countP_cons_of_neg (by simp [hl])] at hn
      have hc : assignTags (first :: rest) tags = first :: assignTags rest tags := by
        cases tags <;> cases rest <;> simp [assignTags, hl]
      rw [hc] at h
      rcases List.mem_cons.mp h with rfl | h
      · exact ⟨token, List.mem_cons_self, .inl ⟨hl, rfl⟩⟩
      · obtain ⟨t, ht, hor⟩ := ih hn h
        exact ⟨t, List.mem_cons_of_mem _ ht, hor⟩
    | true =>
      rw [List.countP_cons_of_pos hl] at hn
      cases tags with
      | nil => simp at hn
      | cons tag tags =>
        rw [assignTags, if_pos hl] at h
        rcases List.mem_cons.mp h with rfl | h
        · exact ⟨first, List.mem_cons_self, .inr ⟨hl, tag, List.mem_cons_self, rfl⟩⟩
        · obtain ⟨t, ht, hor⟩ := ih (by simpa using hn) h
          refine ⟨t, List.mem_cons_of_mem _ ht, hor.imp id ?_⟩
          rintro ⟨htl, tag', htag, rfl⟩
          exact ⟨htl, tag', List.mem_cons_of_mem _ htag, rfl⟩

end Hanyu.Segmentation
