import Hanyu.Settings.Written

/-!
# Calls at the desk of settings

Settings are installed and read at one desk, in any order. What is installed first stays installed,
and what is read first is read ever after. The two are kept apart: a text is still accepted after
the first reading, when it cannot have any effect.

* `Desk.installed_after`: what is installed after some calls.
* `Desk.fst_read_after`: what is read once something has been installed or read.
* `Desk.fst_read_after_of_unwritten`: what is read as long as nothing has been installed.
* `Desk.keepsWord_iff`: exactly when an installation does what it says.
-/

namespace Hanyu.Settings.Desk

/-! ## Calls -/

/-- What is asked of the desk. -/
inductive Call where
  | install (text : Text)
  | read
deriving DecidableEq

/-- The desk after a call. -/
def Call.apply : Call → Desk → Desk
  | install text, desk => (desk.install text).2
  | read, desk => desk.read.2

/-- The settings that a call brings along, when its text writes some. -/
def Call.settings? : Call → Option Settings
  | install text => (Settings.read text).toOption
  | read => none

/-- The desk after some calls. -/
def after (desk : Desk) (calls : List Call) : Desk :=
  calls.foldl (fun desk call => call.apply desk) desk

/-- The desk takes the settings that a text writes. -/
def Accepts (desk : Desk) (text : Text) : Prop := (desk.install text).1 = .ok ()

variable {desk : Desk} {settings : Settings}

theorem after_cons (desk : Desk) (call : Call) (calls : List Call) :
    desk.after (call :: calls) = (call.apply desk).after calls := rfl

theorem after_append (desk : Desk) (before later : List Call) :
    desk.after (before ++ later) = (desk.after before).after later :=
  List.foldl_append

/-! ## What is installed -/

/-- A text is taken when it writes settings and none are installed. -/
theorem accepts_iff {text : Text} :
    desk.Accepts text ↔ (∃ settings, Settings.read text = .ok settings) ∧ desk.installed = none := by
  unfold Accepts install
  cases Settings.read text with
  | error failure => simp
  | ok settings => cases desk.installed <;> simp

theorem installed_apply (call : Call) (desk : Desk) :
    (call.apply desk).installed = desk.installed.or call.settings? := by
  cases call with
  | install text =>
    simp only [Call.apply, Call.settings?, install]
    cases Settings.read text with
    | error failure => simp [Except.toOption]
    | ok settings => cases h : desk.installed <;> simp [Except.toOption, h]
  | read =>
    simp only [Call.apply, Call.settings?, Desk.read]
    cases desk.frozen <;> simp

/-- What is installed stays installed, and the first call that brings settings along installs
them. -/
theorem installed_after (desk : Desk) (calls : List Call) :
    (desk.after calls).installed = desk.installed.or (calls.findSome? Call.settings?) := by
  induction calls generalizing desk with
  | nil => simp [after]
  | cons call calls ih =>
    rw [after_cons, ih, installed_apply, Option.or_assoc, List.findSome?_cons]
    cases call.settings? <;> simp

/-! ## What is read -/

theorem fst_read (desk : Desk) :
    desk.read.1 = desk.frozen.getD (desk.installed.getD standard) := by
  unfold Desk.read
  cases desk.frozen <;> rfl

/-- Something has been installed or read. -/
def IsSettled (desk : Desk) : Prop := desk.installed.isSome = true ∨ desk.frozen.isSome = true

/-- No call changes what is read at a desk where something has been installed or read. -/
theorem IsSettled.apply (h : desk.IsSettled) (call : Call) :
    (call.apply desk).IsSettled ∧ (call.apply desk).read.1 = desk.read.1 := by
  obtain ⟨installed, frozen⟩ := desk
  simp only [IsSettled] at h ⊢
  cases call with
  | install text =>
    simp only [Call.apply, install]
    cases Settings.read text with
    | error failure => exact ⟨h, rfl⟩
    | ok settings =>
      cases installed with
      | some earlier => exact ⟨h, rfl⟩
      | none =>
        have hf : frozen.isSome = true := by simpa using h
        obtain ⟨earlier, rfl⟩ := Option.isSome_iff_exists.mp hf
        exact ⟨.inl rfl, rfl⟩
  | read => cases frozen <;> exact ⟨.inr rfl, rfl⟩

/-- Once something has been installed or read, all readings give the same settings. -/
theorem fst_read_after (h : desk.IsSettled) (calls : List Call) :
    (desk.after calls).read.1 = desk.read.1 := by
  induction calls generalizing desk with
  | nil => rfl
  | cons call calls ih =>
    obtain ⟨hs, hr⟩ := h.apply call
    rw [after_cons, ih hs, hr]

/-- A call without settings changes nothing that is read. -/
theorem fst_read_apply {call : Call} (h : call.settings? = none) (desk : Desk) :
    (call.apply desk).read.1 = desk.read.1 := by
  cases call with
  | install text =>
    simp only [Call.settings?] at h
    simp only [Call.apply, install]
    cases hr : Settings.read text with
    | error failure => rfl
    | ok settings =>
      rw [hr] at h
      cases h
  | read => exact congrArg Prod.fst desk.read_read

/-- Calls without settings change nothing that is read. -/
theorem fst_read_after_of_unwritten {calls : List Call} (h : ∀ call ∈ calls, call.settings? = none)
    (desk : Desk) : (desk.after calls).read.1 = desk.read.1 := by
  induction calls generalizing desk with
  | nil => rfl
  | cons call calls ih =>
    obtain ⟨hcall, hcalls⟩ := List.forall_mem_cons.mp h
    rw [after_cons, ih hcalls, fst_read_apply hcall]

theorem IsSettled.after (h : desk.IsSettled) (calls : List Call) : (desk.after calls).IsSettled := by
  induction calls generalizing desk with
  | nil => exact h
  | cons call calls ih => exact ih (h.apply call).1

theorem isSettled_after_of_read {calls : List Call} (h : .read ∈ calls) (desk : Desk) :
    (desk.after calls).IsSettled := by
  obtain ⟨before, later, rfl⟩ := List.append_of_mem h
  rw [after_append, after_cons]
  refine IsSettled.after ?_ later
  have hread : ∀ desk : Desk, (Call.read.apply desk).IsSettled := by
    rintro ⟨installed, frozen⟩
    cases frozen <;> exact .inr rfl
  exact hread _

/-- Calls without a reading freeze nothing. -/
theorem frozen_after_of_not_mem {calls : List Call} (h : .read ∉ calls) (desk : Desk) :
    (desk.after calls).frozen = desk.frozen := by
  induction calls generalizing desk with
  | nil => rfl
  | cons call calls ih =>
    obtain ⟨hc, hcalls⟩ := List.ne_and_not_mem_of_not_mem_cons h
    cases call with
    | read => exact absurd rfl hc
    | install text =>
      rw [after_cons, ih hcalls]
      simp only [Call.apply, install]
      cases Settings.read text with
      | error failure => rfl
      | ok settings => cases desk.installed <;> rfl

/-! ## Installations that do what they say -/

/-- After some calls the installation of a text does what it says. -/
structure KeepsWord (before : List Call) (text : Text) : Prop where
  /-- When it is accepted, all later readings give what the text writes. -/
  effective : (new.after before).Accepts text → ∀ later,
    Settings.read text = .ok (new.after (before ++ .install text :: later)).read.1
  /-- When settings have been read or installed, it is not accepted. -/
  refused : .read ∈ before ∨ (new.after before).installed.isSome = true →
    ¬(new.after before).Accepts text

/-- The standard settings have been read, none have been installed, and the text writes some. -/
structure IsTooLate (before : List Call) (text : Text) : Prop where
  read : .read ∈ before
  unwritten : ∀ call ∈ before, call.settings? = none
  written : ∃ settings, Settings.read text = .ok settings

theorem installed_eq_none_iff {calls : List Call} :
    (new.after calls).installed = none ↔ ∀ call ∈ calls, call.settings? = none := by
  rw [installed_after, new, Option.none_or, List.findSome?_eq_none_iff]

theorem IsTooLate.accepts {before : List Call} {text : Text} (h : IsTooLate before text) :
    (new.after before).Accepts text :=
  accepts_iff.mpr ⟨h.written, installed_eq_none_iff.mpr h.unwritten⟩

theorem IsTooLate.fst_read {before : List Call} {text : Text} (h : IsTooLate before text)
    (later : List Call) : (new.after (before ++ .install text :: later)).read.1 = standard := by
  rw [after_append]
  calc ((new.after before).after (.install text :: later)).read.1
      = (new.after before).read.1 := fst_read_after (isSettled_after_of_read h.read new) _
    _ = new.read.1 := fst_read_after_of_unwritten h.unwritten new
    _ = standard := rfl

/-- Without a reading before it, an installation has its effect. -/
theorem read_of_accepts {before : List Call} {text : Text} (hread : .read ∉ before)
    (ha : (new.after before).Accepts text) (later : List Call) :
    Settings.read text = .ok (new.after (before ++ .install text :: later)).read.1 := by
  obtain ⟨⟨settings, hs⟩, hn⟩ := accepts_iff.mp ha
  have hf : (new.after before).frozen = none := frozen_after_of_not_mem hread new
  have happly : Call.apply (.install text) (new.after before) =
      { new.after before with installed := some settings } := by
    simp only [Call.apply, install, hs, hn]
  rw [after_append, after_cons, happly, fst_read_after (.inl rfl), fst_read, hf, hs]
  rfl

/-- **When an installation does what it says.** An installation that is accepted determines all
later readings, and one that comes after a reading or after another one is refused: always, unless
it is the first one that writes settings and comes after a reading. Then it is accepted although
the standard settings stay in force. -/
theorem keepsWord_iff (before : List Call) (text : Text) :
    (KeepsWord before text ↔ ¬IsTooLate before text) ∧
      (IsTooLate before text → (new.after before).Accepts text ∧
        ∀ later, (new.after (before ++ .install text :: later)).read.1 = standard) := by
  refine ⟨⟨fun h hlate => h.refused (.inl hlate.read) hlate.accepts, fun h => ⟨?_, ?_⟩⟩, ?_⟩
  · intro ha later
    obtain ⟨hwritten, hn⟩ := accepts_iff.mp ha
    refine read_of_accepts (fun hread => ?_) ha later
    exact h ⟨hread, installed_eq_none_iff.mp hn, hwritten⟩
  · intro hearlier ha
    obtain ⟨hwritten, hn⟩ := accepts_iff.mp ha
    rcases hearlier with hread | hinstalled
    · exact h ⟨hread, installed_eq_none_iff.mp hn, hwritten⟩
    · rw [hn] at hinstalled
      cases hinstalled
  · exact fun hlate => ⟨hlate.accepts, hlate.fst_read⟩

/-- Settings that are installed after the first reading are accepted, and the standard settings
stay in force. -/
theorem accepted_after_read :
    let text := ("[pipeline]\ncancel_check_interval = 10\ndefault_max_input_length = 512\n\n" ++
      "[zh]\ndefault_scheme = \"Pinyin\"\n").toList
    (Settings.read text).toOption = some ⟨10, 512, "Pinyin".toList, 0⟩ ∧
      (new.after [.read]).Accepts text ∧
        (new.after [.read, .install text]).read.1 = standard ∧ ¬KeepsWord [.read] text := by
  intro text
  have hr : (Settings.read text).toOption = some ⟨10, 512, "Pinyin".toList, 0⟩ := by decide +kernel
  have hlate : IsTooLate [.read] text := by
    refine ⟨List.mem_cons_self, fun call hc => ?_, ?_⟩
    · rw [List.mem_singleton.mp hc]
      rfl
    · cases h : Settings.read text with
      | ok settings => exact ⟨settings, rfl⟩
      | error failure =>
        rw [h] at hr
        cases hr
  exact ⟨hr, hlate.accepts, hlate.fst_read [], fun h => h.refused (.inl hlate.read) hlate.accepts⟩

end Hanyu.Settings.Desk
