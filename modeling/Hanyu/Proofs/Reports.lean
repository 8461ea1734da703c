import Hanyu.Proofs.Operations
import Mathlib.Algebra.Ring.Nat

/-!
# What a display of progress is shown

Each stage reports its own progress, from nothing to its own total. The display of the run is shown
these reports one after the other, each on top of the totals that the stages before came to.

* `Reports`: the reports between two sessions, while everything else leaves the display alone.
* `Reports.seen_eq`, `Reports.stageTotal_eq`: the display sees the reports of a stage on top of what
  was done before, and the total that the stage announced last is known afterwards.
* `Stage.RunReports`: the reports of a run, stage by stage; `seen_processAll` what the display sees.
* `isOrderly_shown`: when the reports of every stage rise to its total, so do those of the run.
-/

namespace Hanyu

variable {σ π : Type}

/-! ## Reports -/

/-- A report: how much is done, and how much there is to do. -/
abbrev Shown := UInt64 × UInt64

namespace Shown

/-- No more than all is done. -/
def clamped (report : Shown) : Shown :=
  (if report.1 < report.2 then report.1 else report.2, report.2)

/-- The report of a stage as the display is shown it, on top of what was done before. -/
def above (base : UInt64) (report : Shown) : Shown := (base + report.clamped.1, base + report.2)

theorem clamped_le (report : Shown) : report.clamped.1.toNat ≤ report.2.toNat := by
  unfold clamped
  split
  · rename_i h
    exact Nat.le_of_lt (UInt64.lt_iff_toNat_lt.mp h)
  · exact Nat.le_refl _

theorem toNat_above {base : UInt64} {report : Shown} (h : base.toNat + report.2.toNat < 2 ^ 64) :
    (report.above base).1.toNat = base.toNat + report.clamped.1.toNat ∧
      (report.above base).2.toNat = base.toNat + report.2.toNat := by
  have hle := report.clamped_le
  simp only [above, UInt64.toNat_add]
  omega

end Shown

/-- The display writes down what it is shown. -/
def Progress.Logs (seen : σ → List Shown) (progress : Progress σ) : Prop :=
  ∀ done total notes, seen (progress done total notes).notes = seen notes ++ [(done, total)]

/-- The reports between two sessions in order. Everything else that happens leaves alone what the
display has seen, and the total that was announced last. -/
inductive Reports (seen : σ → List Shown) (context : RunContext σ) :
    List Shown → Session σ → Session σ → Prop where
  | quiet {s t : Session σ} (hs : seen t.notes = seen s.notes) (ht : t.stageTotal = s.stageTotal) :
    Reports seen context [] s t
  | report (done total : UInt64) (s : Session σ) :
    Reports seen context [(done, total)] s (context.reported done total s)
  | append {first second : List Shown} {s t u : Session σ} (h₁ : Reports seen context first s t)
    (h₂ : Reports seen context second t u) : Reports seen context (first ++ second) s u

/-- The total that was announced last, or none. -/
def lastTotal (own : List Shown) : UInt64 := (own.getLast?.map Prod.snd).getD 0

section Display

variable {seen : σ → List Shown} {progress : Progress σ} {context : RunContext σ}

theorem RunContext.reported_eq (hp : context.progress = some progress) (report : Shown)
    (s : Session σ) :
    context.reported report.1 report.2 s =
      (Session.call (progress (report.above context.base).1 (report.above context.base).2)
        { s with stageTotal := report.2 }).2 := by
  rw [reported, hp]
  rfl

/-- The display sees the reports of a stage on top of what was done before. -/
theorem Reports.seen_eq (hl : progress.Logs seen) (hp : context.progress = some progress)
    {own : List Shown} {s t : Session σ} (h : Reports seen context own s t) :
    seen t.notes = seen s.notes ++ own.map (Shown.above context.base) := by
  induction h with
  | quiet hs _ => simpa using hs
  | report done total s =>
    rw [RunContext.reported_eq hp (done, total)]
    exact hl _ _ _
  | append _ _ ih₁ ih₂ => rw [ih₂, ih₁, List.map_append, List.append_assoc]

/-- The total that a stage has announced last is known after it. -/
theorem Reports.stageTotal_eq (hp : context.progress = some progress) {own : List Shown}
    {s t : Session σ} (h : Reports seen context own s t) :
    t.stageTotal = (own.getLast?.map Prod.snd).getD s.stageTotal := by
  induction h with
  | quiet _ ht => exact ht
  | report done total s =>
    rw [RunContext.reported_eq hp (done, total)]
    rfl
  | append _ _ ih₁ ih₂ =>
    rename_i first second s t u _ _
    rw [ih₂, ih₁, List.getLast?_append]
    cases second.getLast? <;> rfl

end Display

/-! ## Reports of a run -/

/-- The reports of a run through stages, those of each selected stage by themselves. -/
inductive Stage.RunReports [Provider σ π] (seen : σ → List Shown) (context : RunContext σ)
    (mode : Mode) : UInt64 → Batch → List (Stage π) → Session σ → List (List Shown) → Prop where
  | nil {done : UInt64} {batch : Batch} {s : Session σ} :
    RunReports seen context mode done batch [] s []
  | skipped {done : UInt64} {batch : Batch} {stage : Stage π} {stages : List (Stage π)}
    {s : Session σ} {lists : List (List Shown)} (hm : mode.selects stage.profile.kind = false)
    (h : RunReports seen context mode done batch stages s lists) :
    RunReports seen context mode done batch (stage :: stages) s lists
  | selected {done : UInt64} {batch out : Batch} {stage stage' : Stage π} {stages : List (Stage π)}
    {s t : Session σ} {own : List Shown} {lists : List (List Shown)}
    (hm : mode.selects stage.profile.kind = true)
    (hp : process (context.offset done) batch (stage, { s with stageTotal := 0 }) =
      (.ok out, stage', t))
    (ho : Reports seen (context.offset done) own { s with stageTotal := 0 } t)
    (h : RunReports seen context mode (done + t.stageTotal) out stages t lists) :
    RunReports seen context mode done batch (stage :: stages) s (own :: lists)

/-- What the display is shown: the reports of each stage on top of the totals before. -/
def shown (base : UInt64) : List (List Shown) → List Shown
  | [] => []
  | own :: lists => own.map (Shown.above base) ++ shown (base + lastTotal own) lists

/-- What the display sees of a run through stages. -/
theorem Stage.seen_processAll [Provider σ π] {seen : σ → List Shown} {progress : Progress σ}
    {context : RunContext σ} (hl : progress.Logs seen) (hp : context.progress = some progress)
    {mode : Mode} {done : UInt64} {batch out : Batch} {stages stages' : List (Stage π)}
    {s t : Session σ} {lists : List (List Shown)}
    (hr : RunReports seen context mode done batch stages s lists)
    (h : processAll context mode done batch stages s = (.ok out, stages', t)) :
    seen t.notes = seen s.notes ++ shown (context.base + done) lists := by
  induction hr generalizing stages' with
  | nil =>
    cases h
    exact (List.append_nil _).symm
  | skipped hm _ ih =>
    rw [processAll, if_neg (by simp [hm])] at h
    obtain ⟨h₁, h₂⟩ := Prod.mk.inj h
    exact ih (Prod.ext h₁ (Prod.ext rfl (Prod.mk.inj h₂).2))
  | selected hm hproc ho _ ih =>
    rename_i done batch between stage stage' stages s u own lists _
    rw [processAll, if_pos hm, hproc] at h
    obtain ⟨h₁, h₂⟩ := Prod.mk.inj h
    have hrest := ih (Prod.ext h₁ (Prod.ext rfl (Prod.mk.inj h₂).2))
    have hoffset : (context.offset done).progress = some progress := hp
    have htotal : u.stageTotal = lastTotal own := ho.stageTotal_eq hoffset
    have hfirst : seen u.notes = seen s.notes ++ own.map (Shown.above (context.base + done)) :=
      ho.seen_eq hl hoffset
    rw [hrest, hfirst, htotal, shown, ← UInt64.add_assoc, List.append_assoc]

/-! ## Reports in order -/

/-- The reports of a stage never fall, and they end when all is done. -/
structure IsSteady (own : List Shown) : Prop where
  rising : own.Pairwise fun a b => a.clamped.1 ≤ b.clamped.1
  complete : ∀ last ∈ own.getLast?, last.clamped.1 = last.2

/-- No total goes beyond what can be counted, on top of the totals before. -/
def Fits (base : Nat) : List (List Shown) → Prop
  | [] => True
  | own :: lists => (∀ report ∈ own, base + report.2.toNat < 2 ^ 64) ∧
      Fits (base + (lastTotal own).toNat) lists

/-- The sum of the totals that the stages announced last. -/
def sumTotals (lists : List (List Shown)) : Nat :=
  (lists.map fun own => (lastTotal own).toNat).sum

/-- What is shown never exceeds what there is to do, never falls, and ends when all is done. -/
structure IsOrderly (shown : List Shown) (total : Nat) : Prop where
  bounded : ∀ report ∈ shown, report.1 ≤ report.2
  rising : shown.Pairwise fun a b => a.1 ≤ b.1
  complete : ∀ last ∈ shown.getLast?, last.1.toNat = total ∧ last.2.toNat = total

/-- Nothing that is shown exceeds what is shown in the end. -/
theorem IsOrderly.le_total {shown : List Shown} {total : Nat} (h : IsOrderly shown total)
    {report : Shown} (hm : report ∈ shown) : report.1.toNat ≤ total := by
  cases hlast : shown.getLast? with
  | none =>
    rw [List.getLast?_eq_none_iff.mp hlast] at hm
    cases hm
  | some last =>
    obtain ⟨before, rfl⟩ := List.getLast?_eq_some_iff.mp hlast
    have htotal : last.1.toNat = total := (h.complete last hlast).1
    rcases List.mem_append.mp hm with hm | hm
    · have hle : report.1 ≤ last.1 :=
        (List.pairwise_append.mp h.rising).2.2 report hm last List.mem_cons_self
      rw [← htotal]
      exact UInt64.le_iff_toNat_le.mp hle
    · rw [List.mem_singleton.mp hm]
      exact Nat.le_of_eq htotal

/-- A display is orderly when it is so in two parts, the second of which begins where the first
ends. -/
theorem IsOrderly.append {first second : List Shown} {middle total : Nat}
    (h₁ : IsOrderly first middle) (h₂ : IsOrderly second total)
    (hmiddle : ∀ report ∈ second, middle ≤ report.1.toNat) (hnil : second = [] → total = middle) :
    IsOrderly (first ++ second) total where
  bounded report hm := (List.mem_append.mp hm).elim (h₁.bounded report) (h₂.bounded report)
  rising := by
    refine List.pairwise_append.mpr ⟨h₁.rising, h₂.rising, fun a ha b hb => ?_⟩
    exact UInt64.le_iff_toNat_le.mpr (Nat.le_trans (h₁.le_total ha) (hmiddle b hb))
  complete last hlast := by
    rw [List.getLast?_append] at hlast
    cases hsecond : second.getLast? with
    | some found =>
      rw [hsecond] at hlast
      exact h₂.complete last (hsecond.trans hlast)
    | none =>
      rw [hsecond] at hlast
      rw [hnil (List.getLast?_eq_none_iff.mp hsecond)]
      exact h₁.complete last hlast

theorem toNat_lastTotal_lt {base : Nat} (hb : base < 2 ^ 64) {own : List Shown}
    (hf : ∀ report ∈ own, base + report.2.toNat < 2 ^ 64) :
    base + (lastTotal own).toNat < 2 ^ 64 := by
  unfold lastTotal
  cases h : own.getLast? with
  | none => simpa using hb
  | some last => exact hf last (List.mem_of_getLast? h)

/-- The reports of a steady stage make up an orderly part of the display. -/
theorem IsSteady.isOrderly_above {own : List Shown} (hs : IsSteady own) {base : UInt64}
    (hf : ∀ report ∈ own, base.toNat + report.2.toNat < 2 ^ 64) :
    IsOrderly (own.map (Shown.above base)) (base.toNat + (lastTotal own).toNat) where
  bounded := by
    refine List.forall_mem_map.mpr fun report hm => ?_
    have hle := report.clamped_le
    obtain ⟨h₁, h₂⟩ := Shown.toNat_above (hf report hm)
    exact UInt64.le_iff_toNat_le.mpr (by omega)
  rising := by
    refine List.pairwise_map.mpr (hs.rising.imp_of_mem fun {a b} ha hb hab => ?_)
    have hle := UInt64.le_iff_toNat_le.mp hab
    have h₁ := (Shown.toNat_above (hf a ha)).1
    have h₂ := (Shown.toNat_above (hf b hb)).1
    exact UInt64.le_iff_toNat_le.mpr (by omega)
  complete last hlast := by
    rw [List.getLast?_map] at hlast
    obtain ⟨report, hr, rfl⟩ := Option.map_eq_some_iff.mp hlast
    have htotal : lastTotal own = report.2 := by
      rw [lastTotal, hr]
      rfl
    obtain ⟨h₁, h₂⟩ := Shown.toNat_above (hf report (List.mem_of_getLast? hr))
    rw [h₁, h₂, hs.complete report hr, htotal]
    exact ⟨rfl, rfl⟩

theorem sumTotals_eq_zero_of_shown {base : UInt64} {lists : List (List Shown)}
    (h : shown base lists = []) : sumTotals lists = 0 := by
  induction lists generalizing base with
  | nil => rfl
  | cons own lists ih =>
    obtain ⟨hown, hrest⟩ := List.append_eq_nil_iff.mp h
    rw [List.map_eq_nil_iff.mp hown] at hrest ⊢
    simpa [sumTotals, lastTotal] using ih hrest

/-- The reports of steady stages make up an orderly display. -/
theorem isOrderly_shown {base : UInt64} {lists : List (List Shown)}
    (hs : ∀ own ∈ lists, IsSteady own) (hf : Fits base.toNat lists) :
    IsOrderly (shown base lists) (base.toNat + sumTotals lists) ∧
      ∀ report ∈ shown base lists, base.toNat ≤ report.1.toNat := by
  induction lists generalizing base with
  | nil => exact ⟨⟨by simp [shown], by simp [shown], by simp [shown]⟩, by simp [shown]⟩
  | cons own lists ih =>
    obtain ⟨hown, hlists⟩ := List.forall_mem_cons.mp hs
    obtain ⟨hfit, hfits⟩ := hf
    have hlt := toNat_lastTotal_lt base.toNat_lt hfit
    have hnext : (base + lastTotal own).toNat = base.toNat + (lastTotal own).toNat := by
      rw [UInt64.toNat_add]
      omega
    obtain ⟨horder, hbase⟩ := ih hlists (hnext ▸ hfits)
    have hsum : base.toNat + sumTotals (own :: lists) =
        (base + lastTotal own).toNat + sumTotals lists := by
      simp only [sumTotals, List.map_cons, List.sum_cons, hnext]
      omega
    rw [shown, hsum]
    have hfirst := hown.isOrderly_above hfit
    rw [← hnext] at hfirst
    refine ⟨hfirst.append horder hbase ?_, ?_⟩
    · intro hnil
      rw [sumTotals_eq_zero_of_shown hnil, Nat.add_zero]
    · intro report hm
      rcases List.mem_append.mp hm with hm | hm
      · obtain ⟨own, ho, rfl⟩ := List.mem_map.mp hm
        have habove := (Shown.toNat_above (hfit own ho)).1
        omega
      · have hle := hbase report hm
        omega

end Hanyu
