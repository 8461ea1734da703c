import Hanyu.Proofs.Dependability
import Hanyu.Proofs.Lossless
import Hanyu.Proofs.Reports

/-!
# Progress of Chinese pipelines

A tokenizer reports every chunk, and a romanizer every token, when it is done, and each of them
reports the end once more. So the display of a run rises to the number of chunks and tokens.

* `Shown.counted`: one report for each item, and one for the end.
* `Chinese.Tokenizer.reports_tokenize`, `Chinese.Romanizer.reports_romanize`: these are the reports
  of a tokenizer and of a romanizer.
* `Chinese.exists_runReports`: so the reports of every stage in a run are steady.
* `Progress.Logs.isOrderly`: what the display of a run is shown.
-/

namespace Hanyu

variable {σ ε π α β : Type}

/-! ## Counting items -/

namespace Shown

/-- One report for each of so many items, when it is done, and one for the end, on top of what was
done before. -/
def counted (base count : Nat) : List Shown :=
  ((List.range count).map fun i => (.ofNat (base + i + 1), .ofNat (base + count))) ++
    [(.ofNat (base + count), .ofNat (base + count))]

/-- The reports of so many items, from one of them on. -/
def countedFrom (place total count : Nat) : List Shown :=
  (List.range' place count).map fun i => (.ofNat (i + 1), .ofNat total)

theorem counted_zero (count : Nat) :
    counted 0 count = countedFrom 0 count count ++ [(.ofNat count, .ofNat count)] := by
  simp only [counted, countedFrom, List.range_eq_range', Nat.zero_add]

/-- Whoever counts items never says that there are more than all. -/
theorem clamped_of_mem_counted {count : Nat} (hc : count < 2 ^ 64) {report : Shown}
    (hm : report ∈ counted 0 count) :
    ∃ i ≤ count, report = (.ofNat i, .ofNat count) ∧ report.clamped = report := by
  have hreport : ∃ i ≤ count, report = (.ofNat i, .ofNat count) := by
    rcases List.mem_append.mp hm with hm | hm
    · obtain ⟨i, hi, rfl⟩ := List.mem_map.mp hm
      have hlt := List.mem_range.mp hi
      exact ⟨i + 1, hlt, by simp only [Nat.zero_add]⟩
    · rw [List.mem_singleton.mp hm]
      exact ⟨count, Nat.le_refl _, by simp only [Nat.zero_add]⟩
  obtain ⟨i, hi, rfl⟩ := hreport
  refine ⟨i, hi, rfl, Prod.ext ?_ rfl⟩
  simp only [clamped]
  split
  · rfl
  · rename_i hn
    have hge : ¬i < count := by
      rwa [UInt64.lt_iff_toNat_lt, UInt64.toNat_ofNat_of_lt' (by omega : i < 2 ^ 64),
        UInt64.toNat_ofNat_of_lt' hc] at hn
    rw [Nat.le_antisymm hi (Nat.le_of_not_lt hge)]

theorem getLast?_counted (base count : Nat) :
    (counted base count).getLast? = some (.ofNat (base + count), .ofNat (base + count)) := by
  simp [counted]

theorem ofNat_le_ofNat {i j : Nat} (h : i ≤ j) (hj : j < 2 ^ 64) :
    UInt64.ofNat i ≤ UInt64.ofNat j := by
  rw [UInt64.le_iff_toNat_le, UInt64.toNat_ofNat_of_lt' (by omega : i < 2 ^ 64),
    UInt64.toNat_ofNat_of_lt' hj]
  exact h

theorem isSteady_counted {count : Nat} (hc : count < 2 ^ 64) : IsSteady (counted 0 count) where
  rising := by
    have hplain : (counted 0 count).Pairwise fun a b => a.1 ≤ b.1 := by
      refine List.pairwise_append.mpr ⟨List.pairwise_map.mpr ?_, List.pairwise_singleton _ _, ?_⟩
      · refine List.pairwise_lt_range.imp_of_mem fun {i j} _ hj hij => ?_
        have hlt := List.mem_range.mp hj
        exact ofNat_le_ofNat (by omega) (by omega)
      · intro first hfirst last hlast
        obtain ⟨i, hi, rfl⟩ := List.mem_map.mp hfirst
        have hlt := List.mem_range.mp hi
        rw [List.mem_singleton.mp hlast]
        exact ofNat_le_ofNat (by omega) (by omega)
    refine hplain.imp_of_mem fun {a b} ha hb hab => ?_
    obtain ⟨_, _, _, hca⟩ := clamped_of_mem_counted hc ha
    obtain ⟨_, _, _, hcb⟩ := clamped_of_mem_counted hc hb
    rwa [hca, hcb]
  complete last hlast := by
    rw [getLast?_counted] at hlast
    cases hlast
    simp [clamped]

theorem toNat_lastTotal_counted {count : Nat} (hc : count < 2 ^ 64) :
    (lastTotal (counted 0 count)).toNat = count := by
  rw [lastTotal, getLast?_counted, Nat.zero_add]
  exact UInt64.toNat_ofNat_of_lt' hc

/-- On top of what was done before the items are counted on. -/
theorem map_above_counted (base : UInt64) {count : Nat} (hc : count < 2 ^ 64) :
    (counted 0 count).map (above base) = counted base.toNat count := by
  have habove : (counted 0 count).map (above base) =
      (counted 0 count).map fun report => (base + report.1, base + report.2) := by
    refine List.map_congr_left fun report hm => ?_
    obtain ⟨_, _, _, hclamped⟩ := clamped_of_mem_counted hc hm
    rw [above, hclamped]
  have hadd : ∀ n, base + UInt64.ofNat n = UInt64.ofNat (base.toNat + n) := by
    intro n
    rw [UInt64.ofNat_add, UInt64.ofNat_toNat]
  rw [habove]
  simp only [counted, List.map_append, List.map_map, Function.comp_def, List.map_cons, List.map_nil,
    hadd, Nat.zero_add, Nat.add_assoc]

end Shown

/-! ## Working through items -/

section Work

variable {seen : σ → List Shown} {context : RunContext σ}

theorem Reports.call {callback : Callback σ α} (h : callback.IsQuiet seen) (s : Session σ) :
    Reports seen context [] s (s.call callback).2 := .quiet (h s.notes) rfl

theorem RunContext.reports_workFrom {work : α → Attempt Fault (Session σ) β}
    {interval total place : Nat} {items : List α} {results : List β} {s t : Session σ}
    (hw : ∀ item ∈ items, ∀ s t result, work item s = (.ok result, t) →
      Reports seen context [] s t)
    (h : context.workFrom interval total work place items s = (.ok results, t)) :
    Reports seen context (Shown.countedFrom place total items.length) s t := by
  induction items generalizing place results s with
  | nil =>
    obtain ⟨-, rfl⟩ := Attempt.pure_ok h
    exact .quiet rfl rfl
  | cons item items ih =>
    obtain ⟨hitem, hitems⟩ := List.forall_mem_cons.mp hw
    obtain ⟨result, rest, u, hx, hr, -⟩ := workFrom_cons_ok h
    have hfirst := (hitem s u result hx).append (.report (.ofNat (place + 1)) (.ofNat total) u)
    exact hfirst.append (ih hitems hr)

theorem RunContext.reports_workThrough {work : α → Attempt Fault (Session σ) β} {interval : Nat}
    {items : List α} {results : List β} {s t : Session σ}
    (hw : ∀ item ∈ items, ∀ s t result, work item s = (.ok result, t) →
      Reports seen context [] s t)
    (h : context.workThrough interval work items s = (.ok results, t)) :
    Reports seen context (Shown.counted 0 items.length) s t := by
  obtain ⟨worked, u, hx, h₁⟩ := Attempt.bind_ok h
  obtain ⟨_, v, hv, h₂⟩ := Attempt.bind_ok h₁
  obtain ⟨-, rfl⟩ := Attempt.pure_ok h₂
  obtain rfl : t = _ := (Prod.mk.inj hv).2.symm
  rw [Shown.counted_zero]
  exact (reports_workFrom hw hx).append (.report _ _ u)

end Work

/-! ## Tokenizers and romanizers -/

namespace Chinese

variable {seen : σ → List Shown} {context : RunContext σ}

/-- No call of the code outside that a stage works with touches what the display has seen. -/
def IsQuiet (seen : σ → List Shown) (stage : Hanyu.Stage (Stage σ ε)) : Prop :=
  match stage.provider with
  | .inl tokenizer => tokenizer.segmenter.IsQuiet seen
  | .inr romanizer => ∀ text style all, (romanizer.pronouncer text style all).IsQuiet seen

theorem Tokenizer.reports_tokenizeChunk {tokenizer : Tokenizer σ ε}
    (hq : tokenizer.segmenter.IsQuiet seen) {engine : ε} {chunk : Text} {tokens : List Token}
    {s t : Session σ} (h : tokenizer.tokenizeChunk engine chunk s = (.ok tokens, t)) :
    Reports seen context [] s t := by
  unfold tokenizeChunk at h
  split at h
  · cases h
  · obtain ⟨segmentation, u, hu, h₁⟩ := Attempt.bind_ok h
    obtain rfl : u = t := (Prod.mk.inj h₁).2
    obtain rfl : u = _ := (Prod.mk.inj hu).2.symm
    exact .call (hq.segment engine chunk) s

/-- A tokenizer reports every chunk, and then the end. -/
theorem Tokenizer.reports_tokenize {tokenizer : Tokenizer σ ε}
    (hq : tokenizer.segmenter.IsQuiet seen) {batch out : Batch} {s t : Session σ}
    (h : tokenize context batch tokenizer s = (.ok out, t)) :
    Reports seen context (Shown.counted 0 batch.raw.length) s t := by
  obtain ⟨_, u, hu, h₁⟩ := Attempt.bind_ok h
  obtain rfl := RunContext.check_ok hu
  cases he : tokenizer.engine with
  | none =>
    rw [he] at h₁
    cases h₁
  | some engine =>
    rw [he] at h₁
    obtain ⟨pieces, v, hw, h₂⟩ := Attempt.bind_ok h₁
    obtain ⟨-, rfl⟩ := Attempt.pure_ok h₂
    exact RunContext.reports_workThrough (fun chunk _ s t tokens hc => reports_tokenizeChunk hq hc) hw

theorem Romanizer.reports_annotate {pronouncer : Pronouncer σ}
    (hq : ∀ text style all, (pronouncer text style all).IsQuiet seen)
    {style : Style} {token result : Token} {s t : Session σ}
    (h : pronouncer.annotate style token s = (.ok result, t)) : Reports seen context [] s t := by
  unfold Pronouncer.annotate at h
  split at h
  · obtain ⟨reading, u, hu, h₁⟩ := Attempt.bind_ok h
    obtain ⟨-, rfl⟩ := Attempt.pure_ok h₁
    obtain ⟨display, v, hv, h₂⟩ := Attempt.bind_ok hu
    obtain ⟨numeric, w, hw, h₃⟩ := Attempt.bind_ok h₂
    obtain rfl : w = t := (Prod.mk.inj h₃).2
    obtain rfl : v = _ := (Prod.mk.inj hv).2.symm
    obtain rfl : w = _ := (Prod.mk.inj hw).2.symm
    exact (Reports.call (hq _ _ _) s).append (.call (hq _ _ _) _)
  · obtain ⟨-, rfl⟩ := Attempt.pure_ok h
    exact .quiet rfl rfl

/-- A romanizer reports every token, and then the end. -/
theorem Romanizer.reports_romanize {romanizer : Romanizer σ}
    (hq : ∀ text style all, (romanizer.pronouncer text style all).IsQuiet seen)
    {batch out : Batch} {s t : Session σ}
    (h : romanize context batch romanizer s = (.ok out, t)) :
    Reports seen context (Shown.counted 0 batch.tokens.length) s t := by
  obtain ⟨_, u, hu, h₁⟩ := Attempt.bind_ok h
  obtain rfl := RunContext.check_ok hu
  cases hr : romanizer.isReady with
  | false =>
    rw [hr] at h₁
    cases h₁
  | true =>
    rw [hr] at h₁
    obtain ⟨tokens, v, hw, h₂⟩ := Attempt.bind_ok h₁
    obtain ⟨-, rfl⟩ := Attempt.pure_ok h₂
    exact RunContext.reports_workThrough (fun token _ s t result ha => reports_annotate hq ha) hw

/-- How many items of a batch a stage works through. -/
def countFor (stage : Hanyu.Stage (Stage σ ε)) (batch : Batch) : Nat :=
  match stage.provider with
  | .inl _ => batch.raw.length
  | .inr _ => batch.tokens.length

/-- Loading an engine is nothing that the display sees. -/
theorem Tokenizer.reports_loadEngine {tokenizer after : Tokenizer σ ε}
    (hq : tokenizer.segmenter.IsQuiet seen) {s t : Session σ}
    (h : loadEngine (tokenizer, s) = (.ok (), after, t)) : Reports seen context [] s t := by
  cases he : tokenizer.engine with
  | some engine =>
    rw [loadEngine, he] at h
    cases h
    exact .quiet rfl rfl
  | none =>
    have hopened : Reports seen context [] s (tokenizer.segmenter.opened s).2 :=
      (Reports.call hq.create s).append (.call (hq.load _) _)
    rw [loadEngine_of_none he] at h
    split at h
    · rename_i engine u ho
      rw [ho] at hopened
      obtain rfl : u = t := (Prod.mk.inj (Prod.mk.inj h).2).2
      exact hopened
    · cases h

/-- Making a stage ready is nothing that the display sees. -/
theorem reports_ensureReady {stage ready : Hanyu.Stage (Stage σ ε)} (hq : IsQuiet seen stage)
    {s t : Session σ} (h : Hanyu.Stage.ensureReady (stage, s) = (.ok (), ready, t)) :
    Reports seen context [] s t ∧ IsQuiet seen ready ∧
      ∀ batch, countFor ready batch = countFor stage batch := by
  rcases Hanyu.Stage.ensureReady_ok h with ⟨-, rfl, rfl⟩ | ⟨-, -, hstart⟩
  · exact ⟨.quiet rfl rfl, hq, fun _ => rfl⟩
  · obtain ⟨provider, phase⟩ := stage
    obtain ⟨readyProvider, readyPhase⟩ := ready
    cases provider with
    | inl tokenizer =>
      obtain ⟨loaded, rfl, hload⟩ := Attempt.either_inl_eq_iff.mp hstart
      have hsame : loaded.segmenter = tokenizer.segmenter := (Tokenizer.loadEngine_ok hload).1
      have hloaded : loaded.segmenter.IsQuiet seen := hsame ▸ hq
      exact ⟨Tokenizer.reports_loadEngine hq hload, hloaded, fun _ => rfl⟩
    | inr romanizer =>
      cases hstart
      exact ⟨.quiet rfl rfl, hq, fun _ => rfl⟩

/-- A stage reports every item that it works through, and then the end. -/
theorem reports_process {stage stage' : Hanyu.Stage (Stage σ ε)} (hq : IsQuiet seen stage)
    {batch out : Batch} {s t : Session σ}
    (h : Hanyu.Stage.process context batch (stage, s) = (.ok out, stage', t)) :
    Reports seen context (Shown.counted 0 (countFor stage batch)) s t := by
  obtain ⟨ready, u, hr, hp⟩ := Hanyu.Stage.process_ok h
  obtain ⟨hquiet, hqr, hcount⟩ := reports_ensureReady hq hr
  obtain ⟨hout, hleft⟩ := Prod.mk.inj hp
  rw [← hcount]
  obtain ⟨provider, phase⟩ := ready
  cases provider with
  | inl tokenizer =>
    have htok : tokenizer.tokenize context batch u = (.ok out, t) :=
      Prod.ext hout (Prod.mk.inj hleft).2
    exact hquiet.append (Tokenizer.reports_tokenize hqr htok)
  | inr romanizer =>
    have hrom : romanizer.romanize context batch u = (.ok out, t) :=
      Prod.ext hout (Prod.mk.inj hleft).2
    exact hquiet.append (Romanizer.reports_romanize hqr hrom)

/-! ## Runs -/

/-- A stage brings no raw chunks back and takes no tokens away. -/
theorem length_of_process {stage stage' : Hanyu.Stage (Stage σ ε)} {batch out : Batch}
    {s t : Session σ} (h : Hanyu.Stage.process context batch (stage, s) = (.ok out, stage', t)) :
    out.raw.length ≤ batch.raw.length ∧ batch.tokens.length ≤ out.tokens.length := by
  obtain ⟨ready, u, -, hp⟩ := Hanyu.Stage.process_ok h
  have htokens : batch.tokens.length ≤ out.tokens.length := by
    obtain ⟨made, hmade, -⟩ := (carries_of_process h).1
    have hlength := congrArg List.length hmade
    simp only [List.length_map, List.length_append] at hlength
    omega
  refine ⟨?_, htokens⟩
  rcases provider_process_ok hp with ⟨tokenizer, v, -, ht⟩ | ⟨romanizer, v, -, hr⟩
  · rw [(Tokenizer.tokenize_ok ht).2]
    exact Nat.zero_le _
  · exact Nat.le_of_eq (congrArg List.length (Romanizer.romanize_ok hr).2)

/-- A romanizer neither adds tokens nor takes any away. -/
theorem length_of_process_romanizer {romanizer : Romanizer σ} {phase : Phase}
    {stage' : Hanyu.Stage (Stage σ ε)} {batch out : Batch} {s t : Session σ}
    (h : Hanyu.Stage.process context batch ((⟨.inr romanizer, phase⟩ : Hanyu.Stage (Stage σ ε)), s) =
      (.ok out, stage', t)) : out.tokens.length = batch.tokens.length := by
  obtain ⟨ready, u, hready, hp⟩ := Hanyu.Stage.process_ok h
  have hright : ready.provider.isLeft = false := by
    rcases Hanyu.Stage.ensureReady_ok hready with ⟨-, rfl, -⟩ | ⟨-, -, hstart⟩
    · rfl
    · exact Attempt.isLeft_either hstart
  rcases provider_process_ok hp with ⟨tokenizer, v, hinl, -⟩ | ⟨_, v, -, hr⟩
  · rw [hinl] at hright
    cases hright
  · have hlength := congrArg List.length (Romanizer.romanize_ok hr).1
    simpa only [List.length_map] using hlength

/-- The reports of every stage in a run of a Chinese pipeline are steady. -/
theorem exists_runReports {mode : Mode} {done : UInt64} {batch out : Batch}
    {stages stages' : List (Hanyu.Stage (Stage σ ε))} {s t : Session σ}
    (hq : ∀ stage ∈ stages, IsQuiet seen stage)
    (h : Hanyu.Stage.processAll context mode done batch stages s = (.ok out, stages', t))
    (hraw : batch.raw.length < 2 ^ 64) (htokens : out.tokens.length < 2 ^ 64) :
    batch.tokens.length ≤ out.tokens.length ∧
    ∃ lists, Hanyu.Stage.RunReports seen context mode done batch stages s lists ∧
      ∀ own ∈ lists, IsSteady own := by
  induction stages generalizing done batch stages' s with
  | nil =>
    cases h
    exact ⟨Nat.le_refl _, [], .nil, fun _ hm => nomatch hm⟩
  | cons stage stages ih =>
    obtain ⟨hstage, hrest⟩ := List.forall_mem_cons.mp hq
    rcases Hanyu.Stage.processAll_cons_ok h with
      ⟨hm, later, hlater⟩ | ⟨hm, between, stage', u, later, hp, hlater⟩
    · obtain ⟨hle, lists, hr, hs⟩ := ih hrest hlater hraw
      exact ⟨hle, lists, .skipped hm hr, hs⟩
    · obtain ⟨hless, hmore⟩ := length_of_process hp
      obtain ⟨hle, lists, hr, hs⟩ := ih hrest hlater (by omega)
      have hcount : countFor stage batch < 2 ^ 64 := by
        unfold countFor
        split <;> omega
      exact ⟨by omega, _ :: lists, .selected hm hp (reports_process hstage hp) hr,
        List.forall_mem_cons.mpr ⟨Shown.isSteady_counted hcount, hs⟩⟩

/-- The reports of a combined run through a tokenizer and a romanizer. -/
theorem runReports_combined {tokenizer : Tokenizer σ ε} {romanizer : Romanizer σ}
    {phase phase' : Phase} {batch out : Batch} {stages' : List (Hanyu.Stage (Stage σ ε))}
    {s t : Session σ}
    (hq : ∀ stage ∈ [(⟨.inl tokenizer, phase⟩ : Hanyu.Stage (Stage σ ε)), ⟨.inr romanizer, phase'⟩],
      IsQuiet seen stage)
    (h : Hanyu.Stage.processAll context .combined 0 batch
      [⟨.inl tokenizer, phase⟩, ⟨.inr romanizer, phase'⟩] s = (.ok out, stages', t)) :
    Hanyu.Stage.RunReports seen context .combined 0 batch
      [(⟨.inl tokenizer, phase⟩ : Hanyu.Stage (Stage σ ε)), ⟨.inr romanizer, phase'⟩] s
      [Shown.counted 0 batch.raw.length, Shown.counted 0 out.tokens.length] := by
  obtain ⟨hfirst, hrest⟩ := List.forall_mem_cons.mp hq
  obtain ⟨hsecond, -⟩ := List.forall_mem_cons.mp hrest
  rcases Hanyu.Stage.processAll_cons_ok h with ⟨hm, -⟩ | ⟨hm, between, stage, u, later, hp, hlater⟩
  · cases hm
  rcases Hanyu.Stage.processAll_cons_ok hlater with ⟨hm', -⟩ | ⟨hm', last, _, v, _, hp', hnil⟩
  · cases hm'
  cases hnil
  rw [length_of_process_romanizer hp']
  exact .selected hm hp (reports_process hfirst hp)
    (.selected hm' hp' (reports_process hsecond hp') .nil)

end Chinese

/-- **Progress over a whole run.** A display that writes down what it is shown sees reports that
never exceed what there is to do, never fall, and end with the sum of the totals of all stages, when
the reports of every stage never fall and end with its total, and no sum is too large to be counted.
Tokenizers and romanizers are such stages, and in a combined run through a tokenizer and a romanizer
every chunk and every token is reported on the way to the number of all of them. -/
theorem Progress.Logs.isOrderly {seen : σ → List Shown} {progress : Progress σ}
    (hl : progress.Logs seen) {context : RunContext σ} (hp : context.progress = some progress) :
    (∀ (π : Type) [Provider σ π] (mode : Mode) (batch out : Batch) (pipeline pipeline' : Pipeline π)
        (s t : Session σ) (lists : List (List Shown)),
      Pipeline.process context mode batch (pipeline, s) = (.ok out, pipeline', t) →
      Stage.RunReports seen context mode 0 batch pipeline.stages s lists →
      (∀ own ∈ lists, IsSteady own) → Fits context.base.toNat lists →
        ∃ shown, seen t.notes = seen s.notes ++ shown ∧
          IsOrderly shown (context.base.toNat + sumTotals lists)) ∧
    (∀ (ε : Type) (mode : Mode) (batch out : Batch) (pipeline pipeline' : Pipeline (Chinese.Stage σ ε))
        (s t : Session σ),
      Pipeline.process context mode batch (pipeline, s) = (.ok out, pipeline', t) →
      (∀ stage ∈ pipeline.stages, Chinese.IsQuiet seen stage) →
      batch.raw.length < 2 ^ 64 → out.tokens.length < 2 ^ 64 →
        ∃ lists, Stage.RunReports seen context mode 0 batch pipeline.stages s lists ∧
          ∀ own ∈ lists, IsSteady own) ∧
    (∀ (ε : Type) (tokenizer : Chinese.Tokenizer σ ε) (romanizer : Chinese.Romanizer σ)
        (phase phase' : Phase) (batch out : Batch) (pipeline pipeline' : Pipeline (Chinese.Stage σ ε))
        (s t : Session σ),
      Pipeline.process context .combined batch (pipeline, s) = (.ok out, pipeline', t) →
      pipeline.stages = [⟨.inl tokenizer, phase⟩, ⟨.inr romanizer, phase'⟩] →
      (∀ stage ∈ pipeline.stages, Chinese.IsQuiet seen stage) →
      context.base.toNat + batch.raw.length + out.tokens.length < 2 ^ 64 →
        seen t.notes = seen s.notes ++ Shown.counted context.base.toNat batch.raw.length ++
            Shown.counted (context.base.toNat + batch.raw.length) out.tokens.length ∧
          (seen t.notes).getLast? =
            some (.ofNat (context.base.toNat + batch.raw.length + out.tokens.length),
              .ofNat (context.base.toNat + batch.raw.length + out.tokens.length))) := by
  refine ⟨?_, ?_, ?_⟩
  · intro π _ mode batch out pipeline pipeline' s t lists h hr hs hf
    have hseen := Stage.seen_processAll hl hp hr (Pipeline.process_ok h).2.2
    rw [UInt64.add_zero] at hseen
    exact ⟨_, hseen, (isOrderly_shown hs hf).1⟩
  · intro ε mode batch out pipeline pipeline' s t h hq hraw htokens
    exact (Chinese.exists_runReports hq (Pipeline.process_ok h).2.2 hraw htokens).2
  · intro ε tokenizer romanizer phase phase' batch out pipeline pipeline' s t h hstages hq hfit
    have hall := (Pipeline.process_ok h).2.2
    rw [hstages] at hall hq
    have hseen := Stage.seen_processAll hl hp (Chinese.runReports_combined hq hall) hall
    have hn : batch.raw.length < 2 ^ 64 := by omega
    have hm : out.tokens.length < 2 ^ 64 := by omega
    have hnext : (context.base + lastTotal (Shown.counted 0 batch.raw.length)).toNat =
        context.base.toNat + batch.raw.length := by
      rw [UInt64.toNat_add, Shown.toNat_lastTotal_counted hn]
      omega
    have hcounted : seen t.notes = seen s.notes ++ Shown.counted context.base.toNat batch.raw.length ++
        Shown.counted (context.base.toNat + batch.raw.length) out.tokens.length := by
      rw [hseen, UInt64.add_zero, shown, shown, shown, List.append_nil,
        Shown.map_above_counted _ hn, Shown.map_above_counted _ hm, hnext, List.append_assoc]
    refine ⟨hcounted, ?_⟩
    rw [hcounted, List.getLast?_append, Shown.getLast?_counted]
    rfl

/-- The display whose notes are the list of what it was shown. -/
def Progress.recording : Progress (List Shown) := fun done total notes =>
  ⟨(), notes ++ [(done, total)], []⟩

/-- A tokenizer and a romanizer that work with one word. -/
def Pipeline.hello : Pipeline (Chinese.Stage (List Shown) LexiconSegmenter) :=
  let lexicon : Lexicon := ⟨[(['你', '好'], ['l'])], [], 2⟩
  .ofProviders [] 0 [.inl (.new (.ofLexicon lexicon) 0 1), .inr (.new (.ofLexicon lexicon) 1)]

/-- Two chunks and the two tokens in them are reported on the way to four. -/
theorem Progress.Logs.isOrderly_hello :
    let context : RunContext (List Shown) := RunContext.free.withProgress .recording
    let run := Pipeline.process context .combined (.ofChunks [['你', '好'], ['！']])
      (.hello, Session.start 0 [])
    (∃ out, run.1 = .ok out) ∧
      run.2.2.notes = [(1, 2), (2, 2), (2, 2), (3, 4), (4, 4), (4, 4)] ∧
        IsOrderly run.2.2.notes 4 := by
  intro context run
  have hlogs : Progress.recording.Logs id := fun _ _ _ => rfl
  have hquiet : ∀ stage ∈ Pipeline.hello.stages, Chinese.IsQuiet id stage :=
    List.forall_mem_cons.mpr ⟨⟨fun _ => rfl, fun _ _ => rfl, fun _ _ _ => rfl⟩,
      List.forall_mem_cons.mpr ⟨fun _ _ _ _ => rfl, fun _ hm => nomatch hm⟩⟩
  have hlength : run.1.map (fun out => out.tokens.length) = .ok 2 := by decide +kernel
  cases hout : run.1 with
  | error fault =>
    rw [hout] at hlength
    cases hlength
  | ok out =>
    rw [hout] at hlength
    have htwo : out.tokens.length = 2 := Except.ok.inj hlength
    have hrun : run = (.ok out, run.2.1, run.2.2) := Prod.ext hout rfl
    obtain ⟨hgeneral, -, hcombined⟩ := @isOrderly _ id .recording hlogs context rfl
    have hnotes : run.2.2.notes = Shown.counted 0 2 ++ Shown.counted 2 2 := by
      have hcounts := (hcombined _ _ _ _ _ _ _ _ _ _ _ hrun rfl hquiet (by rw [htwo]; decide)).1
      rwa [htwo] at hcounts
    have hreports := Chinese.runReports_combined hquiet (Pipeline.process_ok hrun).2.2
    rw [htwo] at hreports
    have htotal : (lastTotal (Shown.counted 0 2)).toNat = 2 :=
      Shown.toNat_lastTotal_counted (by decide)
    have hsteady : ∀ own ∈ [Shown.counted 0 2, Shown.counted 0 2], IsSteady own := by
      intro own hm
      have hown : own = Shown.counted 0 2 := by simpa using hm
      rw [hown]
      exact Shown.isSteady_counted (by decide)
    have hfits : Fits 0 [Shown.counted 0 2, Shown.counted 0 2] := by
      have htwos : ∀ report ∈ Shown.counted 0 2, report.2.toNat = 2 := by
        intro report hm
        obtain ⟨_, -, rfl, -⟩ := Shown.clamped_of_mem_counted (by decide) hm
        rfl
      have hfew : ∀ base < 3, ∀ report ∈ Shown.counted 0 2, base + report.2.toNat < 2 ^ 64 := by
        intro base hbase report hm
        have htwo := htwos report hm
        omega
      rw [Fits, Fits, htotal]
      exact ⟨hfew 0 (by omega), hfew _ (by omega), trivial⟩
    have hsum : sumTotals [Shown.counted 0 2, Shown.counted 0 2] = 4 := by
      simp [sumTotals, htotal]
    obtain ⟨shown, hshown, horderly⟩ := hgeneral _ _ _ _ _ _ _ _ _ hrun hreports hsteady hfits
    have hfour : IsOrderly shown (0 + sumTotals [Shown.counted 0 2, Shown.counted 0 2]) := horderly
    rw [hsum, ← show run.2.2.notes = shown from hshown] at hfour
    exact ⟨⟨out, rfl⟩, hnotes.trans (by decide), hfour⟩

end Hanyu
