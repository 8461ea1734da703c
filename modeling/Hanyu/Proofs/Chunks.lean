import Hanyu.Pipeline

/-!
# Chunks within the limits of the stages

A pipeline cuts a text into chunks that none of its stages refuses for their length.

* `Chunk.length_le_of_mem_split`: no chunk has more characters than the limit.
* `Chunk.flatten_split`: the chunks of a text put together are the text.
* `Chunk.split_eq_nil_iff`: only the text of nothing has no chunks.
* `Pipeline.maxChunkLength_le`: the limit of a pipeline is at most the limit of each stage with one.
* `Pipeline.length_le_of_mem_split`: so no stage gets a chunk that is too long for it.
-/

namespace Hanyu

namespace Chunk

namespace Window

theorem length_content (w : Window) : w.content.length = w.size := by
  simp [content, size]

theorem size_push (w : Window) (c : Char) : (w.push c).size = w.size + 1 := by
  rw [← length_content, content_push, List.length_append, length_content]
  rfl

theorem length_cut_le (w : Window) : w.cut.1.length ≤ w.size := by
  unfold cut
  split <;> simp [size]

/-- Something is cut off a window with something in it. -/
theorem size_cut_lt {w : Window} (h : 0 < w.size) : w.cut.2.size < w.size := by
  unfold cut
  split
  · exact h
  · rename_i hk
    have hpos : 0 < w.kept.length := List.length_pos_iff.mpr (by simpa using hk)
    simp only [size, List.length_nil]
    omega

end Window

/-- The window is never larger than the limit, and every chunk is part of a window. -/
theorem length_le_of_mem_splitFrom {limit : Nat} (hl : 0 < limit) {w : Window} (hw : w.size ≤ limit)
    {text chunk : Text} (h : chunk ∈ splitFrom limit w text) : chunk.length ≤ limit := by
  induction text generalizing w with
  | nil =>
    obtain rfl := List.mem_singleton.mp h
    rw [Window.length_content]
    exact hw
  | cons c rest ih =>
    rw [splitFrom] at h
    split at h
    · rename_i hfull
      rcases List.mem_cons.mp h with rfl | h
      · exact Nat.le_trans w.length_cut_le hw
      · refine ih ?_ h
        have hlt : w.cut.2.size < w.size := Window.size_cut_lt (by omega)
        rw [Window.size_push]
        omega
    · refine ih ?_ h
      rw [Window.size_push]
      omega

theorem length_le_of_mem_split {text chunk : Text} {limit : Nat} (hl : 0 < limit)
    (h : chunk ∈ split text limit) : chunk.length ≤ limit := by
  unfold split at h
  split at h
  · cases h
  · rw [if_neg (by omega)] at h
    exact length_le_of_mem_splitFrom hl (Nat.zero_le _) h

theorem content_cut (w : Window) : w.cut.1 ++ w.cut.2.content = w.content := by
  unfold Window.cut
  split
  · rename_i hk
    simp [Window.content, Window.empty, List.isEmpty_iff.mp hk]
  · simp [Window.content]

theorem flatten_splitFrom (limit : Nat) (w : Window) (text : Text) :
    (splitFrom limit w text).flatten = w.content ++ text := by
  induction text generalizing w with
  | nil => simp [splitFrom]
  | cons c rest ih =>
    rw [splitFrom]
    split
    · rw [List.flatten_cons, ih, Window.content_push, ← content_cut w]
      simp
    · rw [ih, Window.content_push]
      simp

/-- The chunks of a text put together are the text. -/
theorem flatten_split (text : Text) (limit : Nat) : (split text limit).flatten = text := by
  unfold split
  split
  · rename_i h
    rw [List.isEmpty_iff.mp h]
    rfl
  · split
    · simp
    · rw [flatten_splitFrom]
      rfl

theorem splitFrom_ne_nil (limit : Nat) (w : Window) (text : Text) : splitFrom limit w text ≠ [] := by
  induction text generalizing w with
  | nil => exact List.cons_ne_nil _ _
  | cons c rest ih =>
    rw [splitFrom]
    split
    · exact List.cons_ne_nil _ _
    · exact ih _

theorem split_eq_nil_iff {text : Text} {limit : Nat} : split text limit = [] ↔ text = [] := by
  unfold split
  constructor
  · intro h
    split at h
    · rename_i ht
      exact List.isEmpty_iff.mp ht
    · split at h
      · cases h
      · exact absurd h (splitFrom_ne_nil _ _ _)
  · rintro rfl
    rfl

end Chunk

namespace Pipeline

variable {σ π : Type} [Provider σ π]

/-- The limit of a pipeline is the smallest limit of a stage that has one. -/
theorem maxChunkLength_le {pipeline : Pipeline π} {stage : Stage π} (hs : stage ∈ pipeline.stages)
    (hl : 0 < stage.profile.limit) :
    0 < pipeline.maxChunkLength ∧ pipeline.maxChunkLength ≤ stage.profile.limit := by
  have hm : stage.profile.limit ∈
      (pipeline.stages.map fun stage => stage.profile.limit).filter (0 < ·) :=
    List.mem_filter.mpr ⟨List.mem_map_of_mem hs, by simpa using hl⟩
  unfold maxChunkLength
  cases hmin : ((pipeline.stages.map fun stage => stage.profile.limit).filter (0 < ·)).min? with
  | none =>
    rw [List.min?_eq_none_iff.mp hmin] at hm
    cases hm
  | some least =>
    obtain ⟨hmem, hle⟩ := List.min?_eq_some_iff.mp hmin
    exact ⟨by simpa using (List.mem_filter.mp hmem).2, hle _ hm⟩

/-- No stage gets a chunk that is too long for it. -/
theorem length_le_of_mem_split {pipeline : Pipeline π} {stage : Stage π}
    (hs : stage ∈ pipeline.stages) (hl : 0 < stage.profile.limit) {text chunk : Text}
    (h : chunk ∈ Chunk.split text pipeline.maxChunkLength) :
    chunk.length ≤ stage.profile.limit := by
  obtain ⟨hpos, hle⟩ := maxChunkLength_le hs hl
  exact Nat.le_trans (Chunk.length_le_of_mem_split hpos h) hle

end Pipeline

end Hanyu
