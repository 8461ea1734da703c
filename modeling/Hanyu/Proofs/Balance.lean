import Hanyu.Proofs.Books
import Hanyu.Proofs.Dependability
import Hanyu.Proofs.Opening

/-!
# Engines in balance

Whatever is done with a pipeline, its tokenizers hold exactly the engines that were loaded and have
not been unloaded. So none is left over when the pipeline is closed or given up, and a run of an
engine unloads all that it loads.

* `Audited`: the states of a pipeline that begins without engines, with a ledger of what follows.
* `Audited.areKept`: the books are kept in all of them.
* `Audited.heldAll_close`: a closed pipeline holds no engine.
* `Engine.leavesNone_transliterate`: a run of an engine unloads the engines that it loads.
* `Chinese.isNew_of_ofDeclarations`: every engine for Chinese can be audited so.
* `isBalanced_of_audited`: all of this together.
-/

namespace Hanyu

variable {σ ε ρ : Type} [Provider σ ρ] {ledger : σ → Ledger} {ident : ε → Nat} {old : Ledger}

/-! ## Pipelines under audit -/

/-- Nothing but a segmenter touches the ledger during an operation. -/
def Act.IsQuiet (ledger : σ → Ledger) (act : Act σ) (s : Session σ) : Prop :=
  match act with
  | configure _ => True
  | start context => context.IsQuiet ledger
  | restart context _ => context.IsQuiet ledger
  | process context _ _ => context.IsQuiet ledger
  | close => True
  | outside session => ledger session.notes = ledger s.notes

/-- A provider on which books can be kept, and which holds no engine. -/
structure IsNew (ledger : σ → Ledger) (ident : ε → Nat) (provider : Chinese.Tokenizer σ ε ⊕ ρ) :
    Prop where
  booked : IsBooked ledger ident provider
  empty : ∀ tokenizer, provider = .inl tokenizer → tokenizer.engine = none

/-- The states of a pipeline that begins without engines when the ledger is `old`. -/
inductive Audited (ledger : σ → Ledger) (ident : ε → Nat) (old : Ledger) :
    Pipeline (Chinese.Tokenizer σ ε ⊕ ρ) × Session σ → Prop where
  | new (name : Text) (limit : Nat) (providers : List (Chinese.Tokenizer σ ε ⊕ ρ))
    (session : Session σ) (h : ∀ provider ∈ providers, IsNew ledger ident provider)
    (ho : ledger session.notes = old) :
    Audited ledger ident old (.ofProviders name limit providers, session)
  | apply {state : Pipeline (Chinese.Tokenizer σ ε ⊕ ρ) × Session σ} (act : Act σ)
    (h : Audited ledger ident old state) (hq : act.IsQuiet ledger state.2) :
    Audited ledger ident old (act.apply state)

/-- Every step of an operation keeps the books. -/
theorem Act.Step.areKept {act : Act σ} {places : Nat}
    {state state' : Stage (Chinese.Tokenizer σ ε ⊕ ρ) × Session σ} (h : act.Step state state')
    {s : Session σ} (hq : act.IsQuiet ledger s) {others : List Nat}
    (hk : AreKept ledger ident old places others [state.1] state.2) :
    AreKept ledger ident old places others [state'.1] state'.2 ∧
      countPlaces [state'.1] = countPlaces [state.1] := by
  cases h with
  | configure options => exact Stage.balances_configure options _ _ others hk
  | start context => exact Stage.balances_ensureReady _ _ others hk
  | restart context fresh => exact Stage.balances_restart fresh _ _ others hk
  | process context mode batch reached done stage s =>
    have hoffset : (context.offset done).IsQuiet ledger := hq
    exact Stage.balances_process hoffset reached _ _ others (hk.of_ledger_eq rfl)
  | close => exact Stage.balances_release _ _ others hk

/-- The books are kept, whatever is done with the pipeline. -/
theorem Audited.areKept {state : Pipeline (Chinese.Tokenizer σ ε ⊕ ρ) × Session σ}
    (h : Audited ledger ident old state) :
    AreKept ledger ident old (countPlaces state.1.stages) [] state.1.stages state.2 := by
  induction h with
  | new name limit providers session h ho =>
    have hheld : heldAll ident (providers.map Stage.ofProvider) = [] := by
      refine List.flatMap_eq_nil_iff.mpr fun stage hm => ?_
      obtain ⟨provider, hp, rfl⟩ := List.mem_map.mp hm
      cases provider with
      | inl tokenizer =>
        have he : tokenizer.engine = none := (h _ hp).empty tokenizer rfl
        simp only [Stage.held, Stage.ofProvider, Chinese.Tokenizer.held, he]
        rfl
      | inr provider => rfl
    refine ⟨?_, Nat.le_refl _, [], ho, .nil, ?_⟩
    · intro stage hm
      obtain ⟨provider, hp, rfl⟩ := List.mem_map.mp hm
      exact (h provider hp).booked
    · change List.Perm [] (heldAll ident (providers.map Stage.ofProvider) ++ [])
      rw [hheld]
      exact .refl []
  | apply act _ hq ih =>
    rename_i state _
    by_cases ha : ∃ session, act = .outside session
    · obtain ⟨session, rfl⟩ := ha
      exact ih.of_ledger_eq hq
    · have hvisits := act.visits state fun session hs => ha ⟨session, hs⟩
      obtain ⟨hkept, hcount⟩ :=
        hvisits.areKept (fun _ _ others hstep hk => hstep.areKept hq hk) ih
      have hcounts : countPlaces (act.apply state).1.stages = countPlaces state.1.stages := hcount
      rw [hcounts]
      exact hkept

/-! ## Closing -/

/-- A released tokenizer holds no engine. -/
def IsClosed (tokenizer : Chinese.Tokenizer σ ε) (phase : Phase) : Prop :=
  phase = .released → tokenizer.engine = none

theorem isStable_isClosed :
    Chinese.Tokenizer.IsStable (IsClosed : Chinese.Tokenizer σ ε → Phase → Prop) where
  load _ _ _ _ _ _ _ hr := nomatch hr
  drop tokenizer _ s _ _ := tokenizer.engine_dropEngine s

theorem Audited.isClosed {state : Pipeline (Chinese.Tokenizer σ ε ⊕ ρ) × Session σ}
    (h : Audited ledger ident old state) :
    ∀ stage ∈ state.1.stages, stage.OfTokenizer IsClosed := by
  induction h with
  | new name limit providers session h ho =>
    intro stage hm tokenizer ht _
    obtain ⟨provider, hp, rfl⟩ := List.mem_map.mp hm
    exact (h provider hp).empty tokenizer ht
  | apply act _ _ ih =>
    exact Act.ofTokenizer_apply isStable_isClosed
      (fun _ _ tokenizer _ s _ _ => tokenizer.engine_dropEngine s) _ ih

/-- A tokenizer that is released holds no engine afterwards. -/
theorem Stage.held_release {stage : Stage (Chinese.Tokenizer σ ε ⊕ ρ)}
    (hc : stage.OfTokenizer IsClosed) (s : Session σ) :
    (release (stage, s)).2.1.held ident = [] := by
  have hinl : ∀ {after : Stage (Chinese.Tokenizer σ ε ⊕ ρ)} {tokenizer : Chinese.Tokenizer σ ε},
      after.provider = .inl tokenizer → tokenizer.engine = none → after.held ident = [] := by
    intro after tokenizer hp he
    simp only [held, hp, Chinese.Tokenizer.held, he]
    rfl
  have hinr : ∀ {after : Stage (Chinese.Tokenizer σ ε ⊕ ρ)} {provider : ρ},
      after.provider = .inr provider → after.held ident = [] := by
    intro after provider hp
    simp only [held, hp]
  simp only [release]
  split
  · rename_i hreleased
    cases hp : stage.provider with
    | inl tokenizer => exact hinl hp (hc tokenizer hp hreleased)
    | inr provider => exact hinr hp
  · have hprovider := (snd_perform .release (fun _ => .released) Provider.release stage s).1
    cases hp : stage.provider with
    | inl tokenizer =>
      rw [hp] at hprovider
      exact hinl hprovider (tokenizer.engine_dropEngine s)
    | inr provider =>
      rw [hp] at hprovider
      exact hinr hprovider

/-- A closed pipeline holds no engine. -/
theorem Audited.heldAll_close {state : Pipeline (Chinese.Tokenizer σ ε ⊕ ρ) × Session σ}
    (h : Audited ledger ident old state) :
    heldAll ident (Act.close.apply state).1.stages = [] := by
  refine List.flatMap_eq_nil_iff.mpr fun stage' hm => ?_
  obtain ⟨stage, hstage, s, rfl⟩ := Stage.exists_of_mem_releaseAll hm
  exact Stage.held_release (h.isClosed stage hstage) s

/-! ## What the books say -/

/-- Since the ledger was `old`, the books balance while some engines are held, and at every moment
there were no more loaded engines than places. -/
def BooksBalance (ledger : σ → Ledger) (old : Ledger) (places : Nat) (held : List Nat)
    (s : Session σ) : Prop :=
  ∃ calls, ledger s.notes = calls ++ old ∧ calls.IsBalanced held ∧
    ∀ past : Ledger, past <:+ calls → past.opened.length ≤ places

omit [Provider σ ρ] in
theorem Books.balance {places : Nat} {held : List Nat} {s : Session σ}
    (h : Books ledger old places held s) : BooksBalance ledger old places held s := by
  obtain ⟨calls, hc, ho, hh⟩ := h
  exact ⟨calls, hc, ho.isBalanced hh, fun past hs => (ho.of_suffix hs).length_opened_le⟩

theorem Audited.balance {state : Pipeline (Chinese.Tokenizer σ ε ⊕ ρ) × Session σ}
    (h : Audited ledger ident old state) :
    BooksBalance ledger old (countPlaces state.1.stages) (heldAll ident state.1.stages) state.2 := by
  have hbooks := h.areKept.books.balance
  rwa [List.append_nil] at hbooks

/-- No engine is left over when the pipeline is given up. -/
theorem Audited.balance_discard {state : Pipeline (Chinese.Tokenizer σ ε ⊕ ρ) × Session σ}
    (h : Audited ledger ident old state) :
    BooksBalance ledger old (countPlaces state.1.stages) [] (state.1.discard state.2) :=
  h.areKept.discard.balance

/-! ## Runs of an engine -/

/-- What happens between two sessions leaves no engine behind. -/
def LeavesNone (ledger : σ → Ledger) (s t : Session σ) : Prop :=
  ∃ calls, ledger t.notes = calls ++ ledger s.notes ∧ calls.IsBalanced []

omit [Provider σ ρ] in
theorem LeavesNone.refl (s : Session σ) : LeavesNone ledger s s :=
  ⟨[], rfl, (.nil : Ledger.IsOrdered 0 []).isBalanced (.refl [])⟩

theorem Audited.leavesNone {state : Pipeline (Chinese.Tokenizer σ ε ⊕ ρ) × Session σ}
    {s : Session σ} (h : Audited ledger ident (ledger s.notes) state) :
    LeavesNone ledger s (state.1.discard state.2) := by
  obtain ⟨calls, hc, hb, -⟩ := h.balance_discard
  exact ⟨calls, hc, hb⟩

namespace Catalog

omit [Provider σ ρ] in
/-- Every provider of an assembled pipeline is that of an entry. -/
theorem exists_of_instantiate {π : Type} {catalog : Catalog π} {language : Text}
    {transliterator : Option Text} {links : List ChainLink} {providers : List π}
    (h : links.mapM (catalog.instantiate language transliterator) = .ok providers) :
    ∀ provider ∈ providers, ∃ entry ∈ catalog.providers, provider = entry.fresh := by
  have hall := mapM_eq_ok_iff.mp h
  clear h
  induction hall with
  | nil => exact fun _ hm => nomatch hm
  | cons hfirst _ ih =>
    refine List.forall_mem_cons.mpr ⟨?_, ih⟩
    simp only [instantiate] at hfirst
    split at hfirst
    · rename_i entry he
      cases hfirst
      exact ⟨entry, (provider?_eq_some he).1, rfl⟩
    · cases hfirst

variable {catalog : Catalog (Chinese.Tokenizer σ ε ⊕ ρ)}

theorem audited_of_assemble (hn : ∀ entry ∈ catalog.providers, IsNew ledger ident entry.fresh)
    {settings : Settings} {language : Text} {transliterator : Option Text}
    {pipeline : Pipeline (Chinese.Tokenizer σ ε ⊕ ρ)}
    (h : catalog.assemble settings language transliterator = .ok pipeline) (s : Session σ) :
    Audited ledger ident (ledger s.notes) (pipeline, s) := by
  obtain ⟨chain, providers, -, hproviders, rfl⟩ := assemble_eq_ok h
  refine .new _ _ _ _ (fun provider hm => ?_) rfl
  obtain ⟨entry, he, rfl⟩ := exists_of_instantiate hproviders provider hm
  exact hn entry he

/-- An opened pipeline begins without engines, and a pipeline that cannot be opened leaves none. -/
theorem audited_openPipeline (hn : ∀ entry ∈ catalog.providers, IsNew ledger ident entry.fresh)
    (settings : Settings) (language : Text) (scheme : Option Text) (s : Session σ) :
    (∀ pipeline t, catalog.openPipeline settings language scheme s = (.ok pipeline, t) →
        Audited ledger ident (ledger s.notes) (pipeline, t)) ∧
      ∀ refusal t, catalog.openPipeline settings language scheme s = (.error refusal, t) →
        LeavesNone ledger s t := by
  cases scheme with
  | none =>
    constructor
    · intro pipeline t h
      obtain ⟨ha, rfl⟩ := Prod.mk.inj h
      exact audited_of_assemble hn ha s
    · intro refusal t h
      obtain ⟨-, rfl⟩ := Prod.mk.inj h
      exact .refl s
  | some name =>
    have hconfigured : ∀ (opened : Pipeline (Chinese.Tokenizer σ ε ⊕ ρ)) options,
        Audited ledger ident (ledger s.notes) (opened, s) →
        (∀ pipeline t, configured opened options s = (.ok pipeline, t) →
            Audited ledger ident (ledger s.notes) (pipeline, t)) ∧
          ∀ refusal t, configured opened options s = (.error refusal, t) → LeavesNone ledger s t := by
      intro opened options hopened
      have happlied : Audited ledger ident (ledger s.notes)
          (Pipeline.configure options (opened, s)).2 := .apply (.configure options) hopened trivial
      unfold configured
      split
      · rename_i pipeline t hc
        rw [hc] at happlied
        refine ⟨fun _ _ h => ?_, fun _ _ h => nomatch h⟩
        cases h
        exact happlied
      · rename_i fault pipeline t hc
        rw [hc] at happlied
        refine ⟨fun _ _ h => (nomatch h), fun _ _ h => ?_⟩
        cases h
        exact happlied.leavesNone
    constructor
    · intro pipeline t h
      obtain ⟨found, u, hu, h₁⟩ := Attempt.bind_ok h
      obtain ⟨opened, v, hv, h₂⟩ := Attempt.bind_ok h₁
      obtain ⟨-, rfl⟩ := Prod.mk.inj hu
      obtain ⟨ha, rfl⟩ := Prod.mk.inj hv
      exact (hconfigured opened _ (audited_of_assemble hn ha s)).1 pipeline t h₂
    · intro refusal t h
      rcases Attempt.bind_error h with hu | ⟨found, u, hu, h₁⟩
      · obtain ⟨-, rfl⟩ := Prod.mk.inj hu
        exact .refl s
      obtain ⟨-, rfl⟩ := Prod.mk.inj hu
      rcases Attempt.bind_error h₁ with hv | ⟨opened, v, hv, h₂⟩
      · obtain ⟨-, rfl⟩ := Prod.mk.inj hv
        exact .refl s
      obtain ⟨ha, rfl⟩ := Prod.mk.inj hv
      exact (hconfigured opened _ (audited_of_assemble hn ha s)).2 refusal t h₂

end Catalog

namespace Engine

variable {engine : Engine (Chinese.Tokenizer σ ε ⊕ ρ)} {context : RunContext σ}

/-- A run through a pipeline that is closed and given up leaves no engine behind. -/
theorem leavesNone_runAndClose (hq : context.IsQuiet ledger) (mode : Mode) (text : Text)
    {pipeline : Pipeline (Chinese.Tokenizer σ ε ⊕ ρ)} {s t : Session σ}
    (h : Audited ledger ident (ledger s.notes) (pipeline, t)) :
    LeavesNone ledger s (runAndClose context mode text pipeline t).2 := by
  have hprocessed : Audited ledger ident (ledger s.notes)
      (Pipeline.processText context mode text (pipeline, t)).2 :=
    .apply (.process context mode (.ofChunks (Chunk.split text pipeline.maxChunkLength))) h hq
  have hclosed : Audited ledger ident (ledger s.notes)
      (Pipeline.close (Pipeline.processText context mode text (pipeline, t)).2).2 :=
    .apply .close hprocessed trivial
  exact hclosed.leavesNone

/-- A run of an engine leaves no segmentation engine behind, whatever comes out. -/
theorem leavesNone_transliterate
    (hn : ∀ entry ∈ engine.catalog.providers, IsNew ledger ident entry.fresh)
    (hq : context.IsQuiet ledger) (language : Text) (scheme : Option Text) (mode : Mode)
    (text : Text) (s : Session σ) :
    LeavesNone ledger s
      ((engine.transliterate context language scheme mode text).run s).2 := by
  obtain ⟨hopened, hrefused⟩ :=
    Catalog.audited_openPipeline hn engine.settings language scheme s
  cases ho : engine.catalog.openPipeline engine.settings language scheme s with
  | mk result t =>
    cases result with
    | error refusal =>
      have hopen : (engine.openPipeline language scheme).run s = (.error (.catalog refusal), t) := by
        simp only [Attempt.run, Engine.openPipeline, Attempt.mapFailure, ho]
        rfl
      rw [transliterate_of_refused hopen]
      exact hrefused refusal t ho
    | ok pipeline =>
      have hopen : (engine.openPipeline language scheme).run s = (.ok pipeline, t) := by
        simp only [Attempt.run, Engine.openPipeline, Attempt.mapFailure, ho]
        rfl
      rw [transliterate, Attempt.run_bind_ok hopen]
      exact leavesNone_runAndClose hq mode text (hopened pipeline t ho)

end Engine

namespace Chinese

theorem isNew_tokenizer {segmenter : Segmenter σ ε} (h : segmenter.KeepsLedger ledger ident)
    (limit interval : Nat) :
    IsNew ledger ident (.inl (.new segmenter limit interval) : Tokenizer σ ε ⊕ ρ) where
  booked := h
  empty tokenizer ht := by
    cases ht
    rfl

theorem isNew_romanizer {pronouncer : Pronouncer σ}
    (h : ∀ text style all, (pronouncer text style all).IsQuiet ledger) (interval : Nat) :
    IsNew ledger ident (.inr (.new pronouncer interval) : Stage σ ε) where
  booked := Romanizer.leavesAlone h
  empty _ ht := nomatch ht

/-- What is declared for Chinese can be audited when the segmenter writes the ledger, and the
pronouncer does not touch it. -/
theorem isNew_of_ofDeclarations {settings : Settings} {segmenter : Segmenter σ ε}
    {pronouncer : Pronouncer σ} (hk : segmenter.KeepsLedger ledger ident)
    (hq : ∀ text style all, (pronouncer text style all).IsQuiet ledger)
    {catalog : Catalog (Stage σ ε)}
    (h : Catalog.ofDeclarations (declarations settings segmenter pronouncer) = .ok catalog) :
    ∀ entry ∈ catalog.providers, IsNew ledger ident entry.fresh := by
  obtain ⟨-, rfl⟩ := (ofDeclarations_eq_ok_iff settings segmenter pronouncer).mp h
  exact List.forall_mem_cons.mpr
    ⟨isNew_tokenizer hk _ _, List.forall_mem_singleton.mpr (isNew_romanizer hq _)⟩

end Chinese

/-- **Engines in balance.** Whatever is done with a pipeline that begins without engines, however
often engines cannot be loaded, the books balance: at every moment at most as many engines are
loaded as there are tokenizers, the tokenizers hold exactly the engines that were loaded and have
not been unloaded, no engine is unloaded twice, and none segments unless it is loaded. A closed
pipeline holds no engine, and one that is given up leaves none loaded. So a run of an engine,
whatever comes out, unloads exactly the engines that it loaded.

The books are on the tokenizers whose segmenters write the ledger. A tokenizer with a ledger of its
own counts as another provider, so the books can be on a single tokenizer among others. Every
segmenter can be watched, and an engine for Chinese be audited with it. -/
theorem isBalanced_of_audited (ledger : σ → Ledger) (ident : ε → Nat) :
    (∀ (old : Ledger) (state : Pipeline (Chinese.Tokenizer σ ε ⊕ ρ) × Session σ),
      Audited ledger ident old state →
        BooksBalance ledger old (countPlaces state.1.stages) (heldAll ident state.1.stages) state.2 ∧
          heldAll ident (Act.close.apply state).1.stages = [] ∧
            BooksBalance ledger old (countPlaces state.1.stages) [] (state.1.discard state.2)) ∧
    (∀ (engine : Engine (Chinese.Tokenizer σ ε ⊕ ρ)) (context : RunContext σ) (language : Text)
        (scheme : Option Text) (mode : Mode) (text : Text) (s : Session σ),
      (∀ entry ∈ engine.catalog.providers, IsNew ledger ident entry.fresh) →
        context.IsQuiet ledger →
          LeavesNone ledger s
            ((engine.transliterate context language scheme mode text).run s).2) ∧
    ∀ {τ φ : Type} (segmenter : Chinese.Segmenter τ φ) (pronouncer : Pronouncer (Ledger × τ))
        (settings : Settings) (catalog : Catalog (Chinese.Stage (Ledger × τ) (Nat × φ))),
      (∀ text style all, (pronouncer text style all).IsQuiet Prod.fst) →
        Catalog.ofDeclarations (Chinese.declarations settings segmenter.watched pronouncer) =
            .ok catalog →
          ∀ entry ∈ catalog.providers, IsNew Prod.fst Prod.fst entry.fresh :=
  ⟨fun _ _ h => ⟨h.balance, h.heldAll_close, h.balance_discard⟩,
    fun _ _ language scheme mode text s hn hq =>
      Engine.leavesNone_transliterate hn hq language scheme mode text s,
    fun segmenter _ _ _ hq h =>
      Chinese.isNew_of_ofDeclarations segmenter.keepsLedger_watched hq h⟩

/-- A tokenizer whose first load fails, whose second engine is given up for a third one, and which
is closed in the end. An engine whose load fails in the first run, and not in the second. -/
theorem isBalanced_of_audited_scripted :
    let segmenter := Chinese.Segmenter.scripted.watched
    let pronouncer : Pronouncer (Ledger × List Bool) := fun _ _ _ => .answer (.ok [])
    let pipeline : Pipeline (Chinese.Tokenizer (Ledger × List Bool) (Nat × Unit) ⊕
        Chinese.Romanizer (Ledger × List Bool)) :=
      .ofProviders [] 0 [.inl (.new segmenter 0 1), .inr (.new pronouncer 1)]
    let engine : Engine (Chinese.Tokenizer (Ledger × List Bool) (Nat × Unit) ⊕
        Chinese.Romanizer (Ledger × List Bool)) :=
      ⟨Chinese.catalog .standard segmenter pronouncer, .standard⟩
    let run := engine.transliterate .free Chinese.language none .combined ['x']
    let session := Session.start 0 (([], [false, true, true]) : Ledger × List Bool)
    let first := (Act.start .free).apply (pipeline, session)
    let second := (Act.process .free .combined (.ofChunks [['x']])).apply first
    let third := (Act.restart .free true).apply second
    let closed := Act.close.apply third
    let failed := (run.run session).2
    let succeeded := (run.run failed).2
    (first.2.notes.1 = [.load 0 false, .create 0] ∧
        second.2.notes.1 = [.segment 1, .load 1 true, .create 1] ++ first.2.notes.1 ∧
          third.2.notes.1 = [.load 2 true, .create 2, .unload 1] ++ second.2.notes.1 ∧
            closed.2.notes.1 = [.unload 2] ++ third.2.notes.1) ∧
      (heldAll Prod.fst first.1.stages = [] ∧ heldAll Prod.fst second.1.stages = [1] ∧
        heldAll Prod.fst third.1.stages = [2] ∧ heldAll Prod.fst closed.1.stages = []) ∧
      BooksBalance Prod.fst [] 1 [2] third.2 ∧
      BooksBalance Prod.fst [] 1 [] (third.1.discard third.2) ∧
      failed.notes.1 = [.load 0 false, .create 0] ∧
      succeeded.notes.1 = [.unload 1, .segment 1, .load 1 true, .create 1] ++ failed.notes.1 ∧
      LeavesNone Prod.fst session failed ∧ LeavesNone Prod.fst failed succeeded := by
  intro segmenter pronouncer pipeline engine run session first second third closed failed succeeded
  have hquiet : ∀ text style all, (pronouncer text style all).IsQuiet Prod.fst :=
    fun _ _ _ _ => rfl
  have hcontext : (RunContext.free : RunContext (Ledger × List Bool)).IsQuiet Prod.fst :=
    fun _ h => nomatch h
  have h₀ : Audited Prod.fst Prod.fst [] (pipeline, session) :=
    .new _ _ _ _ (List.forall_mem_cons.mpr ⟨Chinese.isNew_tokenizer
      Chinese.Segmenter.scripted.keepsLedger_watched 0 1,
      List.forall_mem_singleton.mpr (Chinese.isNew_romanizer hquiet 1)⟩) rfl
  have h₁ : Audited Prod.fst Prod.fst [] first := .apply _ h₀ hcontext
  have h₂ : Audited Prod.fst Prod.fst [] second := .apply _ h₁ hcontext
  have h₃ : Audited Prod.fst Prod.fst [] third := .apply _ h₂ hcontext
  obtain ⟨hbalance, hruns, hwatched⟩ :=
    @isBalanced_of_audited _ _ (Chinese.Romanizer (Ledger × List Bool)) _
      (Prod.fst : Ledger × List Bool → Ledger) (Prod.fst : Nat × Unit → Nat)
  have hbooks : ∀ places held, countPlaces third.1.stages = places →
      heldAll Prod.fst third.1.stages = held →
        BooksBalance Prod.fst [] places held third.2 ∧
          BooksBalance Prod.fst [] places [] (third.1.discard third.2) := by
    rintro places held rfl rfl
    obtain ⟨hkept, -, hgiven⟩ := hbalance [] third h₃
    exact ⟨hkept, hgiven⟩
  obtain ⟨hkept, hgiven⟩ := hbooks 1 [2] (by decide +kernel) (by decide +kernel)
  have hnew : ∀ entry ∈ engine.catalog.providers, IsNew Prod.fst Prod.fst entry.fresh :=
    hwatched .scripted pronouncer .standard _ hquiet rfl
  have hrun := hruns engine .free Chinese.language none .combined ['x']
  refine ⟨?_, ?_, hkept, hgiven, ?_, ?_, hrun session hnew hcontext, hrun failed hnew hcontext⟩
  · decide +kernel
  · decide +kernel
  · decide +kernel
  · decide +kernel

end Hanyu
