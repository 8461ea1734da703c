import Hanyu.Proofs.Bystanders
import Hanyu.Proofs.Ledger

/-!
# Keeping the books on engines

A segmenter can write down in its notes which engine got which call, and nobody else touches this
ledger. Then the engines that tokenizers hold are at every moment those that are open in the ledger.

* `Chinese.Segmenter.KeepsLedger`: the segmenter writes the ledger; `keepsLedger_watched`: every
  segmenter does when it is watched.
* `Books`: the ledger is in order, and some engines are open.
* `Chinese.Tokenizer.Balances`, `Stage.Balances`: an attempt keeps the books on the engines that it
  takes and gives up. All operations on tokenizers and stages do.
-/

namespace Hanyu

variable {σ ε ρ α γ : Type}

/-! ## Who writes the ledger -/

/-- The segmenter writes down the calls that its engines get, in its notes, and tells every engine
from those that have been called before. -/
structure Chinese.Segmenter.KeepsLedger (ledger : σ → Ledger) (ident : ε → Nat)
    (segmenter : Chinese.Segmenter σ ε) : Prop where
  create : ∀ notes, ledger (segmenter.create notes).notes =
    .create (ident (segmenter.create notes).answer) :: ledger notes
  fresh : ∀ notes, ∀ call ∈ ledger notes, call.engine ≠ ident (segmenter.create notes).answer
  load : ∀ engine notes, ledger (segmenter.load engine notes).notes =
    .load (ident engine) (segmenter.load engine notes).answer.isOk :: ledger notes
  /-- Loading makes no other engine of an engine. -/
  same : ∀ engine notes loaded, (segmenter.load engine notes).answer = .ok loaded →
    ident loaded = ident engine
  segment : ∀ engine chunk notes, ledger (segmenter.segment engine chunk notes).notes =
    .segment (ident engine) :: ledger notes
  unload : ∀ engine notes, ledger (segmenter.unload engine notes).notes =
    .unload (ident engine) :: ledger notes

/-- The segmenter with a ledger beside its notes and numbers beside its engines. It answers as it
does without them. -/
def Chinese.Segmenter.watched (segmenter : Chinese.Segmenter σ ε) :
    Chinese.Segmenter (Ledger × σ) (Nat × ε) where
  create := fun (calls, notes) =>
    let reply := segmenter.create notes
    ⟨(calls.next, reply.answer), (.create calls.next :: calls, reply.notes), reply.raises⟩
  load := fun (engine, inner) (calls, notes) =>
    let reply := segmenter.load inner notes
    ⟨reply.answer.map (engine, ·), (.load engine reply.answer.isOk :: calls, reply.notes),
      reply.raises⟩
  segment := fun (engine, inner) chunk (calls, notes) =>
    let reply := segmenter.segment inner chunk notes
    ⟨reply.answer, (.segment engine :: calls, reply.notes), reply.raises⟩
  unload := fun (engine, inner) (calls, notes) =>
    let reply := segmenter.unload inner notes
    ⟨reply.answer, (.unload engine :: calls, reply.notes), reply.raises⟩

/-- Every segmenter keeps a ledger when it is watched. -/
theorem Chinese.Segmenter.keepsLedger_watched (segmenter : Chinese.Segmenter σ ε) :
    segmenter.watched.KeepsLedger Prod.fst Prod.fst where
  create _ := rfl
  fresh notes call hm := Nat.ne_of_lt (Ledger.engine_lt_next hm)
  load engine notes := by
    simp only [watched]
    cases (segmenter.load engine.2 notes.2).answer <;> rfl
  same engine notes loaded h := by
    simp only [watched] at h
    cases ha : (segmenter.load engine.2 notes.2).answer with
    | ok inner =>
      rw [ha] at h
      cases h
      rfl
    | error fault =>
      rw [ha] at h
      cases h
  segment _ _ _ := rfl
  unload _ _ := rfl

/-! ## The books -/

/-- Since the ledger was `old` it has been in order with so many places, and these engines are
open. -/
def Books (ledger : σ → Ledger) (old : Ledger) (places : Nat) (held : List Nat) (s : Session σ) :
    Prop :=
  ∃ calls, ledger s.notes = calls ++ old ∧ calls.IsOrdered places ∧ calls.opened.Perm held

section Calls

variable {ledger : σ → Ledger} {ident : ε → Nat} {old : Ledger} {places : Nat} {held : List Nat}
  {segmenter : Chinese.Segmenter σ ε} {s t : Session σ} {engine : ε}

theorem Books.of_perm (h : Books ledger old places held s) {held' : List Nat}
    (hp : held.Perm held') : Books ledger old places held' s := by
  obtain ⟨calls, hc, ho, hh⟩ := h
  exact ⟨calls, hc, ho, hh.trans hp⟩

/-- The books are about the ledger only. -/
theorem Books.of_ledger_eq (h : Books ledger old places held s)
    (ht : ledger t.notes = ledger s.notes) : Books ledger old places held t := by
  obtain ⟨calls, hc, ho, hh⟩ := h
  exact ⟨calls, ht.trans hc, ho, hh⟩

/-- Making and loading an engine opens it, unless it cannot be loaded. -/
theorem Books.opened (hk : segmenter.KeepsLedger ledger ident) (hp : held.length < places)
    (h : Books ledger old places held s) :
    (∀ loaded t, segmenter.opened s = (.ok loaded, t) →
        Books ledger old places (ident loaded :: held) t) ∧
      ∀ fault t, segmenter.opened s = (.error fault, t) → Books ledger old places held t := by
  obtain ⟨calls, hc, ho, hh⟩ := h
  have hfresh : ∀ call ∈ calls, call.engine ≠ ident (segmenter.create s.notes).answer :=
    fun call hm => hk.fresh s.notes call (hc ▸ List.mem_append_left old hm)
  have hnew : ident (segmenter.create s.notes).answer ∉ calls.loaded :=
    Ledger.not_mem_loaded hfresh
  have hcreate : ledger (s.call segmenter.create).2.notes =
      (.create (ident (segmenter.create s.notes).answer) :: calls) ++ old :=
    (hk.create s.notes).trans (congrArg _ hc)
  have hload := hk.load (segmenter.create s.notes).answer (s.call segmenter.create).2.notes
  rw [hcreate] at hload
  constructor
  · intro loaded t hopen
    have hanswer : (segmenter.load (segmenter.create s.notes).answer
        (s.call segmenter.create).2.notes).answer = .ok loaded := (Prod.mk.inj hopen).1
    obtain rfl : t = _ := (Prod.mk.inj hopen).2.symm
    rw [hanswer] at hload
    rw [hk.same _ _ _ hanswer]
    refine ⟨.load _ true :: .create _ :: calls, hload, .load (.create ho hfresh) hnew ?_, hh.cons _⟩
    rwa [← hh.length_eq] at hp
  · intro fault t hopen
    have hanswer : (segmenter.load (segmenter.create s.notes).answer
        (s.call segmenter.create).2.notes).answer = .error fault := (Prod.mk.inj hopen).1
    obtain rfl : t = _ := (Prod.mk.inj hopen).2.symm
    rw [hanswer] at hload
    exact ⟨.load _ false :: .create _ :: calls, hload, .refused (.create ho hfresh), hh⟩

/-- Unloading closes an engine. -/
theorem Books.unload (hk : segmenter.KeepsLedger ledger ident)
    (h : Books ledger old places (ident engine :: held) s) :
    Books ledger old places held (s.call (segmenter.unload engine)).2 := by
  obtain ⟨calls, hc, ho, hh⟩ := h
  have hopen : ident engine ∈ calls.opened := hh.mem_iff.mpr List.mem_cons_self
  refine ⟨.unload (ident engine) :: calls, ?_, .unload ho hopen, ?_⟩
  · exact (hk.unload engine s.notes).trans (congrArg _ hc)
  · have herase := hh.erase (ident engine)
    rwa [List.erase_cons_head] at herase

/-- An engine that is open may segment. -/
theorem Books.segment (hk : segmenter.KeepsLedger ledger ident) (hm : ident engine ∈ held)
    (chunk : Text) (h : Books ledger old places held s) :
    Books ledger old places held (s.call (segmenter.segment engine chunk)).2 := by
  obtain ⟨calls, hc, ho, hh⟩ := h
  refine ⟨.segment (ident engine) :: calls, ?_, .segment ho (hh.mem_iff.mpr hm), hh⟩
  exact (hk.segment engine chunk s.notes).trans (congrArg _ hc)

end Calls

/-! ## Tokenizers -/

namespace Chinese.Tokenizer

variable {ledger : σ → Ledger} {ident : ε → Nat} {old : Ledger} {places : Nat}

/-- The engine that a tokenizer holds, if it holds one. -/
def held (ident : ε → Nat) (tokenizer : Tokenizer σ ε) : List Nat :=
  (tokenizer.engine.map ident).toList

/-- An attempt keeps the books on the engine of a tokenizer, besides those that others hold. -/
def Balances (ledger : σ → Ledger) (ident : ε → Nat) (old : Ledger) (places : Nat)
    (x : Attempt Fault (Tokenizer σ ε × Session σ) α) : Prop :=
  ∀ tokenizer s others, tokenizer.segmenter.KeepsLedger ledger ident → others.length < places →
    Books ledger old places (tokenizer.held ident ++ others) s →
      (x (tokenizer, s)).2.1.segmenter = tokenizer.segmenter ∧
        Books ledger old places ((x (tokenizer, s)).2.1.held ident ++ others) (x (tokenizer, s)).2.2

theorem Balances.bind {β : Type} {x : Attempt Fault (Tokenizer σ ε × Session σ) α}
    {f : α → Attempt Fault (Tokenizer σ ε × Session σ) β}
    (hx : Balances ledger ident old places x) (hf : ∀ a, Balances ledger ident old places (f a)) :
    Balances ledger ident old places (x >>= f) := by
  intro tokenizer s
  refine Attempt.between_bind (R := fun before after : Tokenizer σ ε × Session σ => ∀ others,
    before.1.segmenter.KeepsLedger ledger ident → others.length < places →
      Books ledger old places (before.1.held ident ++ others) before.2 →
        after.1.segmenter = before.1.segmenter ∧
          Books ledger old places (after.1.held ident ++ others) after.2)
    ?_ (fun left => hx left.1 left.2) (fun a left => hf a left.1 left.2) (tokenizer, s)
  intro before between after hfirst hlast others hk hp hb
  obtain ⟨hsame, hbooks⟩ := hfirst others hk hp hb
  obtain ⟨hsame', hbooks'⟩ := hlast others (hsame ▸ hk) hp hbooks
  exact ⟨hsame'.trans hsame, hbooks'⟩

/-- A tokenizer without an engine takes the one that is opened for it. -/
theorem balances_loadEngine : Balances ledger ident old places
    (loadEngine : Attempt Fault (Tokenizer σ ε × Session σ) Unit) := by
  intro tokenizer s others hk hp hb
  cases he : tokenizer.engine with
  | some engine =>
    rw [loadEngine, he]
    exact ⟨rfl, hb⟩
  | none =>
    have hnone : tokenizer.held ident = [] := by rw [held, he]; rfl
    rw [hnone] at hb
    obtain ⟨hloaded, hrefused⟩ := hb.opened hk hp
    rw [loadEngine_of_none he]
    cases ho : tokenizer.segmenter.opened s with
    | mk result t =>
      cases result with
      | ok engine => exact ⟨rfl, hloaded engine t ho⟩
      | error fault =>
        rw [← List.nil_append others, ← hnone] at hrefused
        exact ⟨rfl, hrefused fault t ho⟩

/-- A tokenizer that gives up its engine unloads it. -/
theorem books_dropEngine {tokenizer : Tokenizer σ ε} {s : Session σ} {others : List Nat}
    (hk : tokenizer.segmenter.KeepsLedger ledger ident)
    (hb : Books ledger old places (tokenizer.held ident ++ others) s) :
    Books ledger old places others (tokenizer.dropEngine s).2 := by
  unfold dropEngine
  split
  · rename_i he
    rwa [held, he] at hb
  · rename_i engine he
    rw [held, he] at hb
    exact hb.unload hk

theorem balances_dropEngine : Balances ledger ident old places
    (.change fun (tokenizer, s) => tokenizer.dropEngine s :
      Attempt Fault (Tokenizer σ ε × Session σ) Unit) := by
  intro tokenizer s others hk hp hb
  have hnone : (tokenizer.dropEngine s).1.held ident = [] := by rw [held, engine_dropEngine]; rfl
  change (tokenizer.dropEngine s).1.segmenter = _ ∧
    Books ledger old places ((tokenizer.dropEngine s).1.held ident ++ others)
      (tokenizer.dropEngine s).2
  rw [hnone]
  exact ⟨by rw [dropEngine_fst], books_dropEngine hk hb⟩

/-- A tokenizer has only the engine that it holds segment. -/
theorem books_tokenize {tokenizer : Tokenizer σ ε}
    (hk : tokenizer.segmenter.KeepsLedger ledger ident) (others : List Nat)
    {context : RunContext σ} (hq : context.IsQuiet ledger) (batch : Batch) :
    Attempt.Maintains (Books ledger old places (tokenizer.held ident ++ others))
      (tokenizer.tokenize context batch) := by
  refine maintains_tokenize (fun engine he chunk => ?_)
    (fun done total s hb => hb.of_ledger_eq (hq.reported done total s)) batch
  have hm : ident engine ∈ tokenizer.held ident ++ others := by
    rw [held, he]
    exact List.mem_cons_self
  exact fun s hb => hb.segment hk hm chunk

theorem balances_process {context : RunContext σ} (hq : context.IsQuiet ledger) (batch : Batch) :
    Balances ledger ident old places (Provider.process context batch :
      Attempt Fault (Tokenizer σ ε × Session σ) Batch) :=
  fun _ s others hk _ hb => ⟨rfl, books_tokenize hk others hq batch s hb⟩

theorem balances_restart (fresh : Bool) : Balances ledger ident old places
    (Provider.restart fresh : Attempt Fault (Tokenizer σ ε × Session σ) Unit) := by
  cases fresh with
  | false => exact balances_loadEngine
  | true => exact balances_dropEngine.bind fun _ => balances_loadEngine

end Chinese.Tokenizer

/-! ## Stages -/

section Stages

variable [Provider σ ρ] {ledger : σ → Ledger} {ident : ε → Nat} {old : Ledger} {places : Nat}

/-- A tokenizer whose segmenter writes the ledger, or another provider, which does not touch it. -/
def IsBooked (ledger : σ → Ledger) (ident : ε → Nat) : Chinese.Tokenizer σ ε ⊕ ρ → Prop
  | .inl tokenizer => tokenizer.segmenter.KeepsLedger ledger ident
  | .inr provider => Provider.LeavesAlone ledger provider

omit [Provider σ ρ] in
/-- The engine that a stage holds, if it is a tokenizer with one. -/
def Stage.held (ident : ε → Nat) (stage : Stage (Chinese.Tokenizer σ ε ⊕ ρ)) : List Nat :=
  match stage.provider with
  | .inl tokenizer => tokenizer.held ident
  | .inr _ => []

/-- The engines that stages hold. -/
def heldAll (ident : ε → Nat) (stages : List (Stage (Chinese.Tokenizer σ ε ⊕ ρ))) : List Nat :=
  stages.flatMap (Stage.held ident)

/-- The number of tokenizers, each of which has a place for an engine. -/
def countPlaces (stages : List (Stage (Chinese.Tokenizer σ ε ⊕ ρ))) : Nat :=
  stages.countP fun stage => stage.provider.isLeft

/-- The books are kept on stages, besides the engines that others hold. -/
structure AreKept (ledger : σ → Ledger) (ident : ε → Nat) (old : Ledger) (places : Nat)
    (others : List Nat) (stages : List (Stage (Chinese.Tokenizer σ ε ⊕ ρ))) (s : Session σ) :
    Prop where
  booked : ∀ stage ∈ stages, IsBooked ledger ident stage.provider
  room : countPlaces stages + others.length ≤ places
  books : Books ledger old places (heldAll ident stages ++ others) s

/-- An attempt keeps the books on the engine of a stage. -/
def Stage.Balances (ledger : σ → Ledger) (ident : ε → Nat) (old : Ledger) (places : Nat)
    (x : Attempt Fault (Stage (Chinese.Tokenizer σ ε ⊕ ρ) × Session σ) α) : Prop :=
  ∀ stage s others, AreKept ledger ident old places others [stage] s →
    AreKept ledger ident old places others [(x (stage, s)).2.1] (x (stage, s)).2.2 ∧
      countPlaces [(x (stage, s)).2.1] = countPlaces [stage]

omit [Provider σ ρ] in
theorem heldAll_cons (stage : Stage (Chinese.Tokenizer σ ε ⊕ ρ))
    (stages : List (Stage (Chinese.Tokenizer σ ε ⊕ ρ))) :
    heldAll ident (stage :: stages) = stage.held ident ++ heldAll ident stages := List.flatMap_cons

omit [Provider σ ρ] in
theorem countPlaces_cons (stage : Stage (Chinese.Tokenizer σ ε ⊕ ρ))
    (stages : List (Stage (Chinese.Tokenizer σ ε ⊕ ρ))) :
    countPlaces (stage :: stages) = countPlaces [stage] + countPlaces stages := by
  simp only [countPlaces, List.countP_cons, List.countP_nil]
  omega

omit [Provider σ ρ] in
/-- Only tokenizers hold engines, and each of them holds at most one. -/
theorem length_heldAll_le (stages : List (Stage (Chinese.Tokenizer σ ε ⊕ ρ))) :
    (heldAll ident stages).length ≤ countPlaces stages := by
  induction stages with
  | nil => exact Nat.le_refl 0
  | cons stage stages ih =>
    have hstage : (stage.held ident).length ≤ countPlaces [stage] := by
      obtain ⟨provider, phase⟩ := stage
      cases provider with
      | inl tokenizer =>
        have hone : (tokenizer.engine.map ident).toList.length ≤ 1 := by
          cases tokenizer.engine <;> simp
        exact hone
      | inr provider => exact Nat.le_refl 0
    rw [heldAll_cons, countPlaces_cons, List.length_append]
    omega

variable {others : List Nat} {stage : Stage (Chinese.Tokenizer σ ε ⊕ ρ)}
  {stages : List (Stage (Chinese.Tokenizer σ ε ⊕ ρ))} {s t : Session σ}

theorem AreKept.of_ledger_eq (h : AreKept ledger ident old places others stages s)
    (ht : ledger t.notes = ledger s.notes) : AreKept ledger ident old places others stages t :=
  ⟨h.booked, h.room, h.books.of_ledger_eq ht⟩

/-- The books on the first stage, besides the engines of the later ones. -/
theorem AreKept.head (h : AreKept ledger ident old places others (stage :: stages) s) :
    AreKept ledger ident old places (heldAll ident stages ++ others) [stage] s where
  booked := fun _ hm => List.mem_singleton.mp hm ▸ h.booked stage List.mem_cons_self
  room := by
    have hle : (heldAll ident stages).length ≤ countPlaces stages := length_heldAll_le stages
    have hroom := h.room
    rw [countPlaces_cons] at hroom
    rw [List.length_append]
    omega
  books := by
    have hbooks := h.books
    rwa [heldAll_cons, List.append_assoc] at hbooks ⊢

/-- The books on the later stages, besides the engine of the first one. -/
theorem AreKept.tail (h : AreKept ledger ident old places others (stage :: stages) s) :
    AreKept ledger ident old places (stage.held ident ++ others) stages s where
  booked := fun later hm => h.booked later (List.mem_cons_of_mem _ hm)
  room := by
    have hle : (heldAll ident [stage]).length ≤ countPlaces [stage] := length_heldAll_le [stage]
    have hroom := h.room
    rw [heldAll_cons, List.length_append] at hle
    rw [countPlaces_cons] at hroom
    rw [List.length_append]
    omega
  books := by
    have hbooks := h.books
    rw [heldAll_cons, List.append_assoc] at hbooks
    exact hbooks.of_perm (List.perm_append_comm_assoc _ _ _)

/-- The books on all stages are those on the first one, together with those on the later ones. -/
theorem AreKept.cons (hstage : IsBooked ledger ident stage.provider)
    (hroom : countPlaces (stage :: stages) + others.length ≤ places)
    (h : AreKept ledger ident old places (stage.held ident ++ others) stages s) :
    AreKept ledger ident old places others (stage :: stages) s where
  booked := List.forall_mem_cons.mpr ⟨hstage, h.booked⟩
  room := hroom
  books := by
    rw [heldAll_cons, List.append_assoc]
    exact h.books.of_perm (List.perm_append_comm_assoc _ _ _)

/-- Visiting stages with steps that keep the books keeps them. -/
theorem Stage.Visits.areKept
    {X : Stage (Chinese.Tokenizer σ ε ⊕ ρ) × Session σ →
      Stage (Chinese.Tokenizer σ ε ⊕ ρ) × Session σ → Prop}
    (hx : ∀ state state' others, X state state' →
      AreKept ledger ident old places others [state.1] state.2 →
        AreKept ledger ident old places others [state'.1] state'.2 ∧
          countPlaces [state'.1] = countPlaces [state.1])
    {a b : List (Stage (Chinese.Tokenizer σ ε ⊕ ρ)) × Session σ} (h : Stage.Visits X a b)
    {others : List Nat} (ha : AreKept ledger ident old places others a.1 a.2) :
    AreKept ledger ident old places others b.1 b.2 ∧ countPlaces b.1 = countPlaces a.1 := by
  induction h generalizing others with
  | nil => exact ⟨ha, rfl⟩
  | visited hstep _ ih =>
    rename_i stage stage' stages stages' s t u _
    obtain ⟨hstage, hsame⟩ := hx _ _ _ hstep ha.head
    have hcount : countPlaces [stage'] = countPlaces [stage] := hsame
    have hbooked : IsBooked ledger ident stage'.provider := hstage.booked stage' List.mem_cons_self
    have hplaces : countPlaces (stage' :: stages) = countPlaces (stage :: stages) := by
      rw [countPlaces_cons stage', countPlaces_cons stage, hcount]
    have hall : AreKept ledger ident old places others (stage' :: stages) t := by
      refine ⟨List.forall_mem_cons.mpr ⟨hbooked, ha.tail.booked⟩, hplaces ▸ ha.room, ?_⟩
      have hbooks := hstage.books
      rwa [heldAll_cons, heldAll, List.flatMap_nil, List.append_nil, ← List.append_assoc,
        ← heldAll_cons] at hbooks
    obtain ⟨hrest, hsames⟩ := ih hall.tail
    have hcounts : countPlaces stages' = countPlaces stages := hsames
    have hplaces' : countPlaces (stage' :: stages') = countPlaces (stage :: stages) := by
      rw [countPlaces_cons stage', countPlaces_cons stage, hcount, hcounts]
    exact ⟨.cons hbooked (hplaces' ▸ ha.room) hrest, hplaces'⟩
  | passed _ ih =>
    rename_i stage stages stages' s t _
    obtain ⟨hrest, hsames⟩ := ih ha.tail
    have hcounts : countPlaces stages' = countPlaces stages := hsames
    have hplaces : countPlaces (stage :: stages') = countPlaces (stage :: stages) := by
      rw [countPlaces_cons stage stages', countPlaces_cons stage stages, hcounts]
    exact ⟨.cons (ha.booked stage List.mem_cons_self) (hplaces ▸ ha.room) hrest, hplaces⟩

/-! ## Operations on a stage -/

namespace Stage

/-- The books on a tokenizer. -/
theorem areKept_inl_iff {tokenizer : Chinese.Tokenizer σ ε} (hp : stage.provider = .inl tokenizer) :
    AreKept ledger ident old places others [stage] s ↔
      tokenizer.segmenter.KeepsLedger ledger ident ∧ others.length < places ∧
        Books ledger old places (tokenizer.held ident ++ others) s := by
  have hcount : countPlaces [stage] = 1 := by simp [countPlaces, hp]
  have hheld : heldAll ident [stage] = tokenizer.held ident := by simp [heldAll, held, hp]
  have hbooked : IsBooked ledger ident stage.provider ↔
      tokenizer.segmenter.KeepsLedger ledger ident := by rw [hp]; rfl
  constructor
  · rintro ⟨hb, hroom, hbooks⟩
    rw [hcount] at hroom
    rw [hheld] at hbooks
    exact ⟨hbooked.mp (hb stage List.mem_cons_self), by omega, hbooks⟩
  · rintro ⟨hk, hroom, hbooks⟩
    exact ⟨fun _ hm => List.mem_singleton.mp hm ▸ hbooked.mpr hk, by omega, hheld ▸ hbooks⟩

/-- The books on another provider. -/
theorem areKept_inr_iff {provider : ρ} (hp : stage.provider = .inr provider) :
    AreKept ledger ident old places others [stage] s ↔
      Provider.LeavesAlone ledger provider ∧ others.length ≤ places ∧
        Books ledger old places others s := by
  have hcount : countPlaces [stage] = 0 := by simp [countPlaces, hp]
  have hheld : heldAll ident [stage] = [] := by simp [heldAll, held, hp]
  have hbooked : IsBooked ledger ident stage.provider ↔ Provider.LeavesAlone ledger provider := by
    rw [hp]; rfl
  constructor
  · rintro ⟨hb, hroom, hbooks⟩
    rw [hheld] at hbooks
    exact ⟨hbooked.mp (hb stage List.mem_cons_self), by omega, hbooks⟩
  · rintro ⟨hk, hroom, hbooks⟩
    exact ⟨fun _ hm => List.mem_singleton.mp hm ▸ hbooked.mpr hk, by omega, hheld ▸ hbooks⟩

omit [Provider σ ρ] in
theorem countPlaces_of_isLeft {stage stage' : Stage (Chinese.Tokenizer σ ε ⊕ ρ)}
    (h : stage'.provider.isLeft = stage.provider.isLeft) :
    countPlaces [stage'] = countPlaces [stage] := by
  simp only [countPlaces, List.countP_cons, List.countP_nil, h]

theorem Balances.bind {β : Type} {x : Attempt Fault (Stage (Chinese.Tokenizer σ ε ⊕ ρ) × Session σ) α}
    {f : α → Attempt Fault (Stage (Chinese.Tokenizer σ ε ⊕ ρ) × Session σ) β}
    (hx : Balances ledger ident old places x) (hf : ∀ a, Balances ledger ident old places (f a)) :
    Balances ledger ident old places (x >>= f) := by
  intro stage s
  refine Attempt.between_bind (R := fun before after : Stage (Chinese.Tokenizer σ ε ⊕ ρ) × Session σ =>
    ∀ others, AreKept ledger ident old places others [before.1] before.2 →
      AreKept ledger ident old places others [after.1] after.2 ∧
        countPlaces [after.1] = countPlaces [before.1])
    ?_ (fun left => hx left.1 left.2) (fun a left => hf a left.1 left.2) (stage, s)
  intro before between after hfirst hlast others hkept
  obtain ⟨hbetween, hcount⟩ := hfirst others hkept
  obtain ⟨hafter, hcount'⟩ := hlast others hbetween
  exact ⟨hafter, hcount'.trans hcount⟩

/-- An operation that keeps the books on tokenizers, and does not touch the ledger otherwise. -/
theorem balances_perform {operation : Operation} {after : Phase → Phase}
    {x : Attempt Fault (Chinese.Tokenizer σ ε × Session σ) α} {y : Attempt Fault (ρ × Session σ) α}
    (hx : Chinese.Tokenizer.Balances ledger ident old places x)
    (hy : ∀ Q : ρ → Prop, Provider.Ignores ledger Q → Attempt.Ignores ledger Q y) :
    Balances ledger ident old places (perform operation after (.either x y)) := by
  intro stage s others hkept
  obtain ⟨hprovider, hsession⟩ := snd_perform operation after (.either x y) stage s
  cases hp : stage.provider with
  | inl tokenizer =>
    obtain ⟨hk, hroom, hbooks⟩ := (areKept_inl_iff hp).mp hkept
    obtain ⟨hsame, hbooks'⟩ := hx tokenizer s others hk hroom hbooks
    rw [hp] at hprovider hsession
    refine ⟨(areKept_inl_iff hprovider).mpr ⟨hsame ▸ hk, hroom, hsession ▸ hbooks'⟩, ?_⟩
    exact countPlaces_of_isLeft (by rw [hprovider, hp]; rfl)
  | inr provider =>
    obtain ⟨⟨Q, hignores, hQ⟩, hroom, hbooks⟩ := (areKept_inr_iff hp).mp hkept
    obtain ⟨hQ', hledger⟩ := hy Q hignores provider s hQ
    rw [hp] at hprovider hsession
    refine ⟨(areKept_inr_iff hprovider).mpr ⟨⟨Q, hignores, hQ'⟩, hroom, ?_⟩, ?_⟩
    · exact hbooks.of_ledger_eq (hsession ▸ hledger)
    · exact countPlaces_of_isLeft (by rw [hprovider, hp]; rfl)

theorem balances_configure (options : Options) : Balances ledger ident old places
    (configure options : Attempt Fault (Stage (Chinese.Tokenizer σ ε ⊕ ρ) × Session σ) Unit) :=
  balances_perform (fun _ _ _ _ _ hb => ⟨rfl, hb⟩) fun _ hq => hq.configure options

theorem balances_ensureReady : Balances ledger ident old places
    (ensureReady : Attempt Fault (Stage (Chinese.Tokenizer σ ε ⊕ ρ) × Session σ) Unit) := by
  intro stage s others hkept
  simp only [ensureReady]
  split
  · exact ⟨hkept, rfl⟩
  · exact balances_perform Chinese.Tokenizer.balances_loadEngine (fun _ hq => hq.start) stage s
      others hkept

theorem balances_restart (fresh : Bool) : Balances ledger ident old places
    (restart fresh : Attempt Fault (Stage (Chinese.Tokenizer σ ε ⊕ ρ) × Session σ) Unit) :=
  balances_perform (Chinese.Tokenizer.balances_restart fresh) fun _ hq => hq.restart fresh

theorem balances_process {context : RunContext σ} (hquiet : context.IsQuiet ledger) (batch : Batch) :
    Balances ledger ident old places (process context batch :
      Attempt Fault (Stage (Chinese.Tokenizer σ ε ⊕ ρ) × Session σ) Batch) :=
  balances_ensureReady.bind fun _ => balances_perform
    (Chinese.Tokenizer.balances_process hquiet batch) fun _ hq => hq.process context batch hquiet

theorem balances_release : Balances ledger ident old places
    (release : Attempt Fault (Stage (Chinese.Tokenizer σ ε ⊕ ρ) × Session σ) Unit) := by
  intro stage s others hkept
  simp only [release]
  split
  · exact ⟨hkept, rfl⟩
  · exact balances_perform Chinese.Tokenizer.balances_dropEngine (fun _ hq => hq.release) stage s
      others hkept

end Stage

/-- Giving stages up unloads the engines that they hold. -/
theorem AreKept.discard (h : AreKept ledger ident old places others stages s) :
    Books ledger old places others
      (stages.foldl (fun session stage => Provider.discard stage.provider session) s) := by
  induction stages generalizing s with
  | nil => exact h.books
  | cons stage stages ih =>
    have htail := h.tail
    rw [List.foldl_cons]
    refine ih ⟨htail.booked, ?_, ?_⟩
    · have hroom := h.room
      rw [countPlaces_cons] at hroom
      omega
    · cases hp : stage.provider with
      | inl tokenizer =>
        obtain ⟨hk, -, hbooks⟩ := (Stage.areKept_inl_iff hp).mp h.head
        exact Chinese.Tokenizer.books_dropEngine hk hbooks
      | inr provider =>
        obtain ⟨⟨Q, hignores, hQ⟩, -, hbooks⟩ := (Stage.areKept_inr_iff hp).mp h.head
        exact hbooks.of_ledger_eq (hignores.discard provider s hQ)

end Stages

end Hanyu
