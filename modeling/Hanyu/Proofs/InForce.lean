import Hanyu.Engine
import Hanyu.Proofs.Desk
import Hanyu.Proofs.Readiness

/-!
# Settings in force

Settings are kept in writing when they are installed, and read for good when they are first asked
for. Reading them cannot fail then, because a text is installed only when it can be read. So all
readings give the same settings, these are valid, and whoever divides by their interval may do so.

* `IsValid`: the settings that may be installed. Whatever a text writes is valid
  (`isValid_of_read`).
* `TextDesk`: a desk that keeps texts. It answers all calls as the desk that keeps settings does
  (`TextDesk.answers_new`).
* `Desk.HoldsValid`: a desk with nothing but valid settings. No call breaks it.
* `Desk.countP_isAcceptance_le`: at most one text is taken.
* `Chinese.interval?`: how often a stage for Chinese looks at the cancellation, which no operation
  changes (`Chinese.interval?_applyAll`).
* `stayInForce`: all of this together.
-/

namespace Hanyu

namespace Settings

/-! ## Valid settings -/

/-- The settings may be installed. -/
structure IsValid (settings : Settings) : Prop where
  interval_pos : 1 ≤ settings.checkInterval
  interval_le : settings.checkInterval ≤ maxCheckInterval
  chunkLimit_pos : 0 < settings.chunkLimit
  defaultScheme : settings.defaultScheme.isBlank = false

variable {settings : Settings} {text : Text}

theorem isValid_of_check {checked : Settings} (h : settings.check = .ok checked) :
    checked.IsValid := by
  obtain ⟨rfl, hpos, hle, hlimit, hscheme⟩ := check_eq_ok_iff.mp h
  exact ⟨hpos, hle, hlimit, hscheme⟩

/-- What a text writes may be installed. -/
theorem isValid_of_read (h : Settings.read text = .ok settings) : settings.IsValid := by
  unfold Settings.read at h
  split at h
  · cases h
  · split at h
    · cases h
    · rename_i written _
      cases hc : written.check with
      | error invalid =>
        rw [hc] at h
        cases h
      | ok checked =>
        rw [hc] at h
        cases h
        exact isValid_of_check hc

theorem read_standardText_eq : Settings.read standardText = .ok standard := by
  have h := read_standardText
  cases hr : Settings.read standardText with
  | error failure =>
    rw [hr] at h
    cases h
  | ok settings =>
    rw [hr] at h
    exact congrArg Except.ok (Option.some.inj h)

theorem isValid_standard : standard.IsValid := isValid_of_read read_standardText_eq

/-! ## Answers -/

/-- What a desk answers to a call. -/
inductive Answer where
  /-- Whether a text has been installed. -/
  | installation (result : Except Failure Unit)
  /-- The settings in force. -/
  | reading (result : Except Failure Settings)

/-- A text has been taken. -/
def Answer.isAcceptance : Answer → Bool
  | installation (.ok ()) => true
  | _ => false

namespace Desk

/-- What the desk answers to a call. -/
def answer (desk : Desk) : Call → Answer
  | .install text => .installation (desk.install text).1
  | .read => .reading (.ok desk.read.1)

/-- What the desk answers to calls, one after the other. -/
def answers (desk : Desk) : List Call → List Answer
  | [] => []
  | call :: calls => desk.answer call :: (call.apply desk).answers calls

end Desk

/-- A desk where settings are kept in writing until they are read. -/
structure TextDesk where
  /-- The text that has been installed. -/
  installed : Option Text
  /-- The settings that have been read. -/
  frozen : Option Settings

namespace TextDesk

/-- The desk before anything is installed or read. -/
def new : TextDesk := ⟨none, none⟩

/-- The desk with a text installed, when settings can be read from it and no text is installed. -/
def install (text : Text) (desk : TextDesk) : Except Failure Unit × TextDesk :=
  match Settings.read text with
  | .error failure => (.error failure, desk)
  | .ok _ =>
    match desk.installed with
    | some _ => (.error .alreadyInstalled, desk)
    | none => (.ok (), { desk with installed := some text })

/-- The settings that have been read before, or else those of the text that is installed, or of the
standard text. This fails when the text cannot be read. -/
def read (desk : TextDesk) : Except Failure Settings × TextDesk :=
  match desk.frozen with
  | some settings => (.ok settings, desk)
  | none =>
    match Settings.read (desk.installed.getD standardText) with
    | .ok settings => (.ok settings, { desk with frozen := some settings })
    | .error failure => (.error failure, desk)

/-- The answer to a call, and the desk after it. -/
def take (desk : TextDesk) : Desk.Call → Answer × TextDesk
  | .install text => (.installation (desk.install text).1, (desk.install text).2)
  | .read => (.reading desk.read.1, desk.read.2)

/-- What the desk answers to calls, one after the other. -/
def answers (desk : TextDesk) : List Desk.Call → List Answer
  | [] => []
  | call :: calls => (desk.take call).1 :: (desk.take call).2.answers calls

/-! ## Two desks -/

/-- A desk keeps the texts that write what another one keeps. -/
structure Mirrors (texts : TextDesk) (desk : Desk) : Prop where
  installed : texts.installed.map Settings.read = desk.installed.map .ok
  frozen : texts.frozen = desk.frozen

variable {texts : TextDesk} {desk : Desk}

/-- The text that is to be read can be read. -/
theorem Mirrors.read_text (h : texts.Mirrors desk) :
    Settings.read (texts.installed.getD standardText) = .ok (desk.installed.getD standard) := by
  rw [← Option.getD_map Settings.read, h.installed, read_standardText_eq, Option.getD_map]

theorem Mirrors.read (h : texts.Mirrors desk) :
    texts.read.1 = .ok desk.read.1 ∧ texts.read.2.Mirrors desk.read.2 := by
  have ht := h.read_text
  obtain ⟨hi, hf⟩ := h
  rw [TextDesk.read, Desk.read, hf, ht]
  cases desk.frozen with
  | some settings => exact ⟨rfl, hi, hf⟩
  | none => exact ⟨rfl, hi, rfl⟩

theorem Mirrors.install (h : texts.Mirrors desk) (text : Text) :
    (texts.install text).1 = (desk.install text).1 ∧
      (texts.install text).2.Mirrors (desk.install text).2 := by
  obtain ⟨hi, hf⟩ := h
  rw [TextDesk.install, Desk.install]
  cases hr : Settings.read text with
  | error failure => exact ⟨rfl, hi, hf⟩
  | ok settings =>
    cases ht : texts.installed with
    | none =>
      cases hd : desk.installed with
      | none => exact ⟨rfl, congrArg some hr, hf⟩
      | some earlier =>
        rw [ht, hd] at hi
        cases hi
    | some earlier =>
      cases hd : desk.installed with
      | none =>
        rw [ht, hd] at hi
        cases hi
      | some settings => exact ⟨rfl, hi, hf⟩

/-- Such desks give the same answer to a call, and stay such desks. -/
theorem Mirrors.take (h : texts.Mirrors desk) (call : Desk.Call) :
    (texts.take call).1 = desk.answer call ∧ (texts.take call).2.Mirrors (call.apply desk) := by
  cases call with
  | install text => exact ⟨congrArg Answer.installation (h.install text).1, (h.install text).2⟩
  | read => exact ⟨congrArg Answer.reading h.read.1, h.read.2⟩

theorem Mirrors.answers (h : texts.Mirrors desk) (calls : List Desk.Call) :
    texts.answers calls = desk.answers calls := by
  induction calls generalizing texts desk with
  | nil => rfl
  | cons call calls ih =>
    obtain ⟨hanswer, hafter⟩ := h.take call
    rw [TextDesk.answers, Desk.answers, hanswer, ih hafter]

theorem answers_new (calls : List Desk.Call) : new.answers calls = Desk.new.answers calls :=
  Mirrors.answers ⟨rfl, rfl⟩ calls

end TextDesk

/-! ## What a desk answers -/

namespace Desk

variable {desk : Desk}

theorem length_answers (desk : Desk) (calls : List Call) :
    (desk.answers calls).length = calls.length := by
  induction calls generalizing desk with
  | nil => rfl
  | cons call calls ih => rw [answers, List.length_cons, ih, List.length_cons]

theorem answers_append (desk : Desk) (before later : List Call) :
    desk.answers (before ++ later) = desk.answers before ++ (desk.after before).answers later := by
  induction before generalizing desk with
  | nil => rfl
  | cons call before ih =>
    rw [List.cons_append, answers, ih, answers, after_cons, List.cons_append]

/-- Every answer is given to a call that comes after some others. -/
theorem exists_of_mem_answers {calls : List Call} {a : Answer} (h : a ∈ desk.answers calls) :
    ∃ before call later, calls = before ++ call :: later ∧ a = (desk.after before).answer call := by
  induction calls generalizing desk with
  | nil => cases h
  | cons call calls ih =>
    rcases List.mem_cons.mp h with rfl | h
    · exact ⟨[], call, calls, rfl, rfl⟩
    · obtain ⟨before, call', later, rfl, ha⟩ := ih h
      exact ⟨call :: before, call', later, rfl, ha⟩

/-- All readings give the settings that are read at the end. -/
theorem reading_eq {calls : List Call} {result : Except Failure Settings}
    (h : .reading result ∈ desk.answers calls) : result = .ok (desk.after calls).read.1 := by
  obtain ⟨before, call, later, rfl, ha⟩ := exists_of_mem_answers h
  cases call with
  | install text => cases ha
  | read =>
    cases ha
    have hread : Call.read ∈ [Call.read] := List.mem_cons_self
    have hsettled : (Call.read.apply (desk.after before)).IsSettled :=
      isSettled_after_of_read hread (desk.after before)
    rw [after_append, after_cons, fst_read_after hsettled]
    exact congrArg (fun reading => Except.ok reading.1) (read_read _).symm

/-- A text that is refused leaves the desk as it is. -/
theorem snd_install_of_error {text : Text} {failure : Failure}
    (h : (desk.install text).1 = .error failure) : (desk.install text).2 = desk := by
  unfold install at h ⊢
  cases hr : Settings.read text with
  | error failure => rfl
  | ok settings =>
    rw [hr] at h
    cases hi : desk.installed with
    | some earlier => rfl
    | none =>
      rw [hi] at h
      cases h

/-- Without a call that is refused all other answers are the same. -/
theorem answers_of_refused {before later : List Call} {text : Text} {failure : Failure}
    (h : (desk.answers (before ++ .install text :: later))[before.length]? =
      some (.installation (.error failure))) :
    desk.answers (before ++ later) =
      (desk.answers (before ++ .install text :: later)).eraseIdx before.length := by
  have hlen := length_answers desk before
  rw [answers_append, answers, ← hlen, List.getElem?_append_right (Nat.le_refl _), Nat.sub_self] at h
  have hrefused : ((desk.after before).install text).1 = .error failure :=
    Answer.installation.inj (Option.some.inj h)
  have hsame : Call.apply (.install text) (desk.after before) = desk.after before :=
    snd_install_of_error hrefused
  rw [answers_append, answers_append, answers, hsame, ← hlen,
    List.eraseIdx_append_of_length_le (Nat.le_refl _), Nat.sub_self]
  rfl

/-- A text is taken only where none is installed, and is installed then. -/
theorem installed_of_isAcceptance (call : Call) (h : (desk.answer call).isAcceptance = true) :
    desk.installed = none ∧ (call.apply desk).installed.isSome = true := by
  cases call with
  | read => cases h
  | install text =>
    have haccepts : desk.Accepts text := by
      unfold Accepts
      cases hr : (desk.install text).1 with
      | ok _ => rfl
      | error failure =>
        rw [answer, hr] at h
        cases h
    obtain ⟨⟨settings, hs⟩, hn⟩ := accepts_iff.mp haccepts
    refine ⟨hn, ?_⟩
    rw [installed_apply, hn, Call.settings?, hs]
    rfl

/-- At most one text is taken, and none where one is installed. -/
theorem countP_isAcceptance_le (desk : Desk) (calls : List Call) :
    (desk.answers calls).countP Answer.isAcceptance ≤ if desk.installed.isSome then 0 else 1 := by
  induction calls generalizing desk with
  | nil => exact Nat.zero_le _
  | cons call calls ih =>
    have hrest := ih (call.apply desk)
    rw [answers, List.countP_cons]
    by_cases ha : (desk.answer call).isAcceptance = true
    · obtain ⟨hn, hsome⟩ := installed_of_isAcceptance call ha
      rw [if_pos hsome] at hrest
      rw [if_pos ha, hn]
      exact Nat.succ_le_succ hrest
    · rw [if_neg ha]
      refine Nat.le_trans hrest ?_
      rw [installed_apply]
      cases desk.installed with
      | some settings => exact Nat.le_refl _
      | none =>
        rw [Option.none_or]
        split <;> decide

/-- What is installed or has been read at the desk is valid. -/
structure HoldsValid (desk : Desk) : Prop where
  installed : ∀ settings, desk.installed = some settings → settings.IsValid
  frozen : ∀ settings, desk.frozen = some settings → settings.IsValid

theorem HoldsValid.read (h : desk.HoldsValid) : desk.read.1.IsValid := by
  rw [fst_read]
  cases hf : desk.frozen with
  | some settings => exact h.frozen settings hf
  | none =>
    cases hi : desk.installed with
    | some settings => exact h.installed settings hi
    | none => exact isValid_standard

theorem HoldsValid.apply (h : desk.HoldsValid) (call : Call) : (call.apply desk).HoldsValid where
  installed settings hs := by
    rw [installed_apply, Option.or_eq_some_iff] at hs
    rcases hs with hs | ⟨-, hs⟩
    · exact h.installed settings hs
    · cases call with
      | read => cases hs
      | install text =>
        rw [Call.settings?] at hs
        cases hr : Settings.read text with
        | error failure =>
          rw [hr] at hs
          cases hs
        | ok written =>
          rw [hr] at hs
          cases hs
          exact isValid_of_read hr
  frozen settings hs := by
    cases call with
    | install text =>
      have hnot : Call.read ∉ [Call.install text] := by simp
      refine h.frozen settings ?_
      rw [← hs, ← frozen_after_of_not_mem hnot desk]
      rfl
    | read =>
      have hread := h.read
      rw [Call.apply, Desk.read] at hs
      rw [fst_read] at hread
      cases hf : desk.frozen with
      | some earlier =>
        rw [hf] at hs
        exact h.frozen settings (hf ▸ hs)
      | none =>
        rw [hf] at hs hread
        cases hs
        exact hread

theorem HoldsValid.after (h : desk.HoldsValid) (calls : List Call) :
    (desk.after calls).HoldsValid := by
  induction calls generalizing desk with
  | nil => exact h
  | cons call calls ih => exact ih (h.apply call)

theorem holdsValid_new : new.HoldsValid where
  installed _ h := nomatch h
  frozen _ h := nomatch h

end Desk

end Settings

/-! ## Looks at the cancellation -/

namespace Chinese

variable {σ ε ρ : Type}

/-- What does not depend on the engine of a tokenizer is kept by all its operations. -/
theorem Tokenizer.keeps {P : Tokenizer σ ε → Prop}
    (hP : ∀ tokenizer engine, P tokenizer → P { tokenizer with engine }) : Provider.Keeps P := by
  have hload : Attempt.Maintains (fun state : Tokenizer σ ε × Session σ => P state.1)
      loadEngine := by
    rintro ⟨tokenizer, s⟩ h
    obtain ⟨engine, he⟩ := loadEngine_fst tokenizer s
    exact he ▸ hP tokenizer engine h
  have hdrop : Attempt.Maintains (fun state : Tokenizer σ ε × Session σ => P state.1)
      (.change fun state => state.1.dropEngine state.2 : Attempt Fault _ Unit) := by
    rintro ⟨tokenizer, s⟩ h
    change P (tokenizer.dropEngine s).1
    rw [dropEngine_fst]
    exact hP tokenizer none h
  refine ⟨fun _ _ h => h, hload, fun fresh => ?_, fun _ _ _ h => h, hdrop⟩
  cases fresh with
  | false => exact hload
  | true => exact hdrop.bind fun _ => hload

/-- What does not depend on the style of a romanizer and on whether it is ready is kept by all its
operations. -/
theorem Romanizer.keeps {P : Romanizer σ → Prop}
    (hP : ∀ romanizer style isReady, P romanizer → P { romanizer with style, isReady }) :
    Provider.Keeps P where
  configure options := by
    rintro ⟨romanizer, s⟩ h
    change P (romanizer.configured options)
    rw [configured]
    split
    · exact hP romanizer _ romanizer.isReady h
    · exact h
  start _ h := hP _ _ true h
  restart _ _ h := hP _ _ true h
  process _ _ _ h := h
  release _ h := hP _ _ false h

/-- How many items a stage for Chinese works through from one look at the cancellation to the
next. -/
def interval? : Stage σ ε ⊕ ρ → Option Nat
  | .inl (.inl tokenizer) => some tokenizer.interval
  | .inl (.inr romanizer) => some romanizer.interval
  | .inr _ => none

/-- A stage for Chinese that was made with some settings, or any other provider. -/
inductive IsMadeWith (settings : Settings) : Stage σ ε ⊕ ρ → Prop where
  | tokenizer (segmenter : Segmenter σ ε) (limit : Nat) :
    IsMadeWith settings (.inl (.inl (.new segmenter limit settings.checkInterval)))
  | romanizer (pronouncer : Pronouncer σ) :
    IsMadeWith settings (.inl (.inr (.new pronouncer settings.checkInterval)))
  | other (provider : ρ) : IsMadeWith settings (.inr provider)

/-- What is declared for Chinese was made with the settings. -/
theorem isMadeWith_of_declared {settings : Settings} {segmenter : Segmenter σ ε}
    {pronouncer : Pronouncer σ} {entry : ProviderEntry (Stage σ ε)}
    (h : .provider entry ∈ declarations settings segmenter pronouncer) :
    IsMadeWith settings (.inl entry.fresh : Stage σ ε ⊕ ρ) := by
  simp only [declarations, List.mem_append, List.mem_cons, List.mem_map] at h
  rcases h with ((h | h | h | h) | ⟨scheme, -, h⟩) | h | h
  · cases h
    exact .tokenizer segmenter settings.tokenizerLimit
  · cases h
    exact .romanizer pronouncer
  all_goals cases h

/-- No operation changes how often a stage for Chinese looks at the cancellation. -/
theorem keeps_interval? [Provider σ ρ] (interval : Nat) :
    Provider.Keeps fun provider : Stage σ ε ⊕ ρ =>
      ∀ places, interval? provider = some places → places = interval := by
  have hstages := Provider.Keeps.either
    (Provider.Keeps.either
      (Tokenizer.keeps (σ := σ) (ε := ε) (P := fun tokenizer => tokenizer.interval = interval)
        fun _ _ h => h)
      (Romanizer.keeps (σ := σ) (P := fun romanizer => romanizer.interval = interval)
        fun _ _ _ h => h))
    (Provider.keeps_true (π := ρ))
  convert hstages using 2 with provider
  rcases provider with (tokenizer | romanizer) | other <;> simp [interval?, eq_comm]

/-- Whatever is done with a pipeline of stages that were made with some settings, those for Chinese
look at the cancellation as often as these say. -/
theorem interval?_applyAll [Provider σ ρ] {settings : Settings} {providers : List (Stage σ ε ⊕ ρ)}
    (h : ∀ provider ∈ providers, IsMadeWith settings provider) (name : Text) (limit : Nat)
    (session : Session σ) (acts : List (Act σ)) :
    ∀ stage ∈ (Act.applyAll acts (Pipeline.ofProviders name limit providers, session)).1.stages,
      ∀ places, interval? stage.provider = some places → places = settings.checkInterval := by
  refine Act.keeps_applyAll (keeps_interval? settings.checkInterval) acts fun stage hs => ?_
  obtain ⟨provider, hp, rfl⟩ := List.mem_map.mp hs
  intro places hplaces
  cases h provider hp with
  | tokenizer segmenter limit => exact (Option.some.inj hplaces).symm
  | romanizer pronouncer => exact (Option.some.inj hplaces).symm
  | other provider => cases hplaces

end Chinese

/-! ## In force -/

namespace Settings

/-- What holds of calls at a new desk, with the settings that are in force in the end. -/
structure StayInForce (σ ε ρ : Type) [Provider σ ρ] (calls : List Desk.Call) (settings : Settings) :
    Prop where
  /-- A desk that keeps settings answers as the desk that keeps texts does. -/
  mirrored : TextDesk.new.answers calls = Desk.new.answers calls
  /-- No reading fails, and all readings give these settings. -/
  reading : ∀ result, .reading result ∈ TextDesk.new.answers calls → result = .ok settings
  valid : settings.IsValid
  /-- At most one text is taken. -/
  once : (TextDesk.new.answers calls).countP Answer.isAcceptance ≤ 1
  /-- A text that is refused makes no difference to any other answer. -/
  refused : ∀ before text later failure, calls = before ++ .install text :: later →
    (TextDesk.new.answers calls)[before.length]? = some (.installation (.error failure)) →
      TextDesk.new.answers (before ++ later) = (TextDesk.new.answers calls).eraseIdx before.length
  /-- No stage for Chinese that was made with the settings divides by zero, whatever is done with
  its pipeline. -/
  divided : ∀ (name : Text) (limit : Nat) (providers : List (Chinese.Stage σ ε ⊕ ρ))
    (session : Session σ) (acts : List (Act σ)),
    (∀ provider ∈ providers, Chinese.IsMadeWith settings provider) →
    ∀ stage ∈ (Act.applyAll acts (Pipeline.ofProviders name limit providers, session)).1.stages,
      ∀ places, Chinese.interval? stage.provider = some places →
        places = settings.checkInterval ∧ places ≠ 0

/-- **Settings stay in force.** Whatever texts are installed and whenever the settings are read, no
reading fails and all of them give the same valid settings, at most one text is taken, one that is
refused changes nothing, and no stage divides by zero when it counts its items. -/
theorem stayInForce (σ ε ρ : Type) [Provider σ ρ] (calls : List Desk.Call) :
    StayInForce σ ε ρ calls (Desk.new.after calls).read.1 := by
  have hvalid : (Desk.new.after calls).read.1.IsValid := (Desk.holdsValid_new.after calls).read
  refine ⟨TextDesk.answers_new calls, ?_, hvalid, ?_, ?_, ?_⟩
  · intro result h
    rw [TextDesk.answers_new] at h
    exact Desk.reading_eq h
  · rw [TextDesk.answers_new]
    exact Desk.countP_isAcceptance_le Desk.new calls
  · rintro before text later failure rfl h
    rw [TextDesk.answers_new] at h
    rw [TextDesk.answers_new, TextDesk.answers_new]
    exact Desk.answers_of_refused h
  · intro name limit providers session acts hmade stage hs places hplaces
    have hinterval := Chinese.interval?_applyAll hmade name limit session acts stage hs places hplaces
    have hpos := hvalid.interval_pos
    exact ⟨hinterval, by omega⟩

end Settings

end Hanyu
