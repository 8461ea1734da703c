import Hanyu.Proofs.Lossless

/-!
# Tables of candidates

A reading retains the candidates of each character in two tables, in a style and with tone digits,
which are answers to two calls. The answers are compared by the number of their lists only: a
character may be left with more candidates in one table than in the other.

* `Reading.haveOneShape_iff`: tables of one shape are the two halves of one table of pairs.
* `Pronouncer.keepsShape_iff`: exactly when the tables that are retained have one shape.
* `Pronouncer.keepsShape_ofLexicon`: a lexicon has the readings of a character in both tables.
* `Chinese.Romanizer.hasOneShape_of_romanize`: what holds of one surface holds of a batch.
-/

namespace Hanyu

variable {σ : Type}

/-! ## Tables of one shape -/

namespace Reading

/-- Two tables over a surface have one shape: there is a list for each of its characters, and the
two lists of a character have equally many candidates. -/
structure HaveOneShape (surface : Text) (display numeric : List (List Text)) : Prop where
  lists : display.length = surface.length
  numericLists : numeric.length = surface.length
  candidates : display.map List.length = numeric.map List.length

instance decidableHaveOneShape (surface : Text) (display numeric : List (List Text)) :
    Decidable (HaveOneShape surface display numeric) :=
  decidable_of_iff (display.length = surface.length ∧ numeric.length = surface.length ∧
      display.map List.length = numeric.map List.length)
    ⟨fun ⟨hd, hn, hc⟩ => ⟨hd, hn, hc⟩, fun h => ⟨h.lists, h.numericLists, h.candidates⟩⟩

/-- Tables whose lists have the same lengths can be put together candidate by candidate. -/
theorem exists_pairs {display numeric : List (List Text)}
    (h : display.map List.length = numeric.map List.length) :
    ∃ pairs : List (List (Text × Text)),
      display = pairs.map (List.map Prod.fst) ∧ numeric = pairs.map (List.map Prod.snd) := by
  induction display generalizing numeric with
  | nil => exact ⟨[], rfl, (List.map_eq_nil_iff.mp h.symm)⟩
  | cons list display ih =>
    cases numeric with
    | nil => cases h
    | cons list' numeric =>
      obtain ⟨hl, hr⟩ := List.cons.inj h
      obtain ⟨pairs, rfl, rfl⟩ := ih hr
      refine ⟨list.zip list' :: pairs, ?_, ?_⟩
      · rw [List.map_cons, List.map_fst_zip (Nat.le_of_eq hl)]
      · rw [List.map_cons, List.map_snd_zip (Nat.le_of_eq hl.symm)]

/-- Two tables have one shape exactly when they are the two halves of a table of pairs, with a list
for each character: a candidate has the same place in both. -/
theorem haveOneShape_iff {surface : Text} {display numeric : List (List Text)} :
    HaveOneShape surface display numeric ↔ ∃ pairs : List (List (Text × Text)),
      pairs.length = surface.length ∧
        display = pairs.map (List.map Prod.fst) ∧ numeric = pairs.map (List.map Prod.snd) := by
  constructor
  · intro h
    obtain ⟨pairs, rfl, rfl⟩ := exists_pairs h.candidates
    exact ⟨pairs, by simpa using h.lists, rfl, rfl⟩
  · rintro ⟨pairs, hl, rfl, rfl⟩
    exact ⟨by simpa using hl, by simpa using hl, by simp [Function.comp_def]⟩

variable {surface : Text} {display numeric : List (List Text)}

/-- Tables with a list for each character are retained, whatever is in the lists. -/
theorem ofTables_of_length (style : Style) (hd : display.length = surface.length)
    (hn : numeric.length = surface.length) :
    ∃ reading, ofTables surface style display numeric = .ok reading ∧
      reading.candidates = display ∧ reading.numericCandidates = numeric := by
  rw [ofTables, if_neg (by omega), if_neg (by omega)]
  exact ⟨_, rfl, rfl, rfl⟩

/-- Other tables are refused as inconsistent. -/
theorem ofTables_of_length_ne (style : Style)
    (h : ¬(display.length = surface.length ∧ numeric.length = surface.length)) :
    ∃ mismatch, ofTables surface style display numeric = .error (.consistency mismatch) := by
  unfold ofTables
  by_cases htables : display.length = numeric.length
  · have hlists : display.length ≠ surface.length := by omega
    exact ⟨_, by rw [if_neg (by simpa using htables), if_pos hlists]⟩
  · exact ⟨_, if_pos htables⟩

end Reading

/-! ## Tables out of two calls -/

namespace Pronouncer

open Reading

/-- The two tables for a surface, each the answer to a call of its own. -/
def tables (pronouncer : Pronouncer σ) (style : Style) (surface : Text) :
    Attempt Fault (Session σ) (List (List Text) × List (List Text)) := do
  let display ← Session.consult (pronouncer surface style true)
  let numeric ← Session.consult (pronouncer surface .tone3 true)
  return (display, numeric)

theorem reading_eq_tables (pronouncer : Pronouncer σ) (style : Style) (surface : Text) :
    pronouncer.reading style surface = pronouncer.tables style surface >>= fun answers =>
      .ofExcept (ofTables surface style answers.1 answers.2) := by
  simp only [reading, tables, bind_assoc, pure_bind]

section Runs

variable {pronouncer : Pronouncer σ} {style : Style} {surface : Text} {s t : Session σ}

theorem reading_of_tables {display numeric : List (List Text)}
    (h : (pronouncer.tables style surface).run s = (.ok (display, numeric), t)) :
    (pronouncer.reading style surface).run s = (ofTables surface style display numeric, t) := by
  rw [reading_eq_tables, Attempt.run_bind_ok h]
  rfl

/-- A reading retains the tables that it is made of. -/
theorem tables_of_reading {reading : Reading}
    (h : (pronouncer.reading style surface).run s = (.ok reading, t)) :
    (pronouncer.tables style surface).run s =
        (.ok (reading.candidates, reading.numericCandidates), t) ∧
      reading.candidates.length = surface.length ∧
        reading.numericCandidates.length = surface.length := by
  rw [reading_eq_tables] at h
  obtain ⟨⟨display, numeric⟩, u, ht, hr⟩ := Attempt.bind_ok h
  obtain ⟨hmade, rfl⟩ := Prod.mk.inj hr
  obtain ⟨hd, hn, rfl, rfl, -⟩ := ofTables_eq_ok hmade
  exact ⟨ht, hd, hn⟩

/-- Two answers are retained exactly when each has a list for each character of the surface. -/
theorem retained_iff {display numeric : List (List Text)}
    (ht : (pronouncer.tables style surface).run s = (.ok (display, numeric), t)) :
    (∃ reading, (pronouncer.reading style surface).run s = (.ok reading, t) ∧
        reading.candidates = display ∧ reading.numericCandidates = numeric) ↔
      display.length = surface.length ∧ numeric.length = surface.length := by
  constructor
  · rintro ⟨reading, hr, rfl, rfl⟩
    exact (tables_of_reading hr).2
  · rintro ⟨hd, hn⟩
    obtain ⟨reading, hm, hreading⟩ := ofTables_of_length style hd hn
    exact ⟨reading, by rw [reading_of_tables ht, hm], hreading⟩

/-- What one shape asks of a pronouncer at a surface: tables that are retained have one shape, and
answers of another shape are refused as inconsistent. -/
structure KeepsShape (pronouncer : Pronouncer σ) (style : Style) (surface : Text)
    (s : Session σ) : Prop where
  retained : ∀ reading t, (pronouncer.reading style surface).run s = (.ok reading, t) →
    HaveOneShape surface reading.candidates reading.numericCandidates
  refused : ∀ display numeric t,
    (pronouncer.tables style surface).run s = (.ok (display, numeric), t) →
      ¬HaveOneShape surface display numeric →
        ∃ mismatch, (pronouncer.reading style surface).run s = (.error (.consistency mismatch), t)

/-- Answers with a list for each character have to agree in the candidates by themselves. -/
theorem keepsShape_of_candidates
    (h : ∀ display numeric t, (pronouncer.tables style surface).run s =
      (.ok (display, numeric), t) → display.length = surface.length →
        numeric.length = surface.length → display.map List.length = numeric.map List.length) :
    pronouncer.KeepsShape style surface s where
  retained reading t hr := by
    obtain ⟨ht, hd, hn⟩ := tables_of_reading hr
    exact ⟨hd, hn, h _ _ _ ht hd hn⟩
  refused display numeric t ht hshape := by
    have hlengths : ¬(display.length = surface.length ∧ numeric.length = surface.length) :=
      fun ⟨hd, hn⟩ => hshape ⟨hd, hn, h _ _ _ ht hd hn⟩
    obtain ⟨mismatch, hm⟩ := ofTables_of_length_ne style hlengths
    exact ⟨mismatch, by rw [reading_of_tables ht, hm]⟩

end Runs

/-- **When tables have one shape.** Two answers are retained exactly when each has a list for each
character of the surface. So the tables have one shape, and answers of another shape are refused,
exactly when answers with so many lists have, for every character, equally many candidates. -/
theorem keepsShape_iff (pronouncer : Pronouncer σ) (style : Style) (surface : Text)
    (s : Session σ) :
    (∀ display numeric t, (pronouncer.tables style surface).run s = (.ok (display, numeric), t) →
      ((∃ reading, (pronouncer.reading style surface).run s = (.ok reading, t) ∧
          reading.candidates = display ∧ reading.numericCandidates = numeric) ↔
        display.length = surface.length ∧ numeric.length = surface.length)) ∧
    (pronouncer.KeepsShape style surface s ↔
      ∀ display numeric t, (pronouncer.tables style surface).run s = (.ok (display, numeric), t) →
        display.length = surface.length → numeric.length = surface.length →
          display.map List.length = numeric.map List.length) := by
  refine ⟨fun display numeric t ht => retained_iff ht, fun h display numeric t ht hd hn => ?_,
    keepsShape_of_candidates⟩
  obtain ⟨reading, hr, rfl, rfl⟩ := (retained_iff ht).mpr ⟨hd, hn⟩
  exact (h.retained reading t hr).candidates

/-- A character with two candidates in the style asked for and one with tone digits is pronounced,
and its tables are retained as they are. -/
theorem ragged_tables_kept :
    let display := [["hǎo".toList, "hào".toList]]
    let numeric := [["hao3".toList]]
    let pronouncer : Pronouncer Unit := fun _ style _ =>
      .answer (.ok (if style = .tone3 then numeric else display))
    let reading : Reading := ⟨"hǎo".toList, "hao3".toList, display, numeric, some 3, some 3, false⟩
    (pronouncer.reading .tone ['好']).run (Session.start 0 ()) =
        (.ok reading, Session.start 0 ()) ∧
      ¬HaveOneShape ['好'] reading.candidates reading.numericCandidates ∧
      ¬pronouncer.KeepsShape .tone ['好'] (Session.start 0 ()) := by
  intro display numeric pronouncer reading
  have hread : (pronouncer.reading .tone ['好']).run (Session.start 0 ()) =
      (.ok reading, Session.start 0 ()) :=
    Prod.ext (by decide +kernel) rfl
  have hshape : ¬HaveOneShape ['好'] reading.candidates reading.numericCandidates := by decide
  exact ⟨hread, hshape, fun h => hshape (h.retained _ _ hread)⟩

end Pronouncer

/-! ## Lexicons -/

/-- The tables of a lexicon have one shape: both write the readings it has for a character. -/
theorem Lexicon.haveOneShape_pronounce (lexicon : Lexicon) (surface : Text) (style style' : Style) :
    Reading.HaveOneShape surface (lexicon.pronounce surface style true)
      (lexicon.pronounce surface style' true) := by
  refine Reading.haveOneShape_iff.mpr
    ⟨surface.map fun c => (lexicon.readingsOf c).map fun stored =>
      (style.render stored, style'.render stored), List.length_map _, ?_, ?_⟩
  all_goals simp [pronounce, Function.comp_def]

theorem Pronouncer.keepsShape_ofLexicon (lexicon : Lexicon) (style : Style) (surface : Text)
    (s : Session σ) : (ofLexicon lexicon).KeepsShape style surface s := by
  refine keepsShape_of_candidates fun display numeric t ht _ _ => ?_
  cases ht
  exact (lexicon.haveOneShape_pronounce surface style .tone3).candidates

/-! ## Batches -/

/-- The tables of a token have one shape, if it is one to be pronounced. -/
def Token.HasOneShape (token : Token) : Prop :=
  token.isPronounceable = true → ∀ reading, token.reading? = some reading →
    Reading.HaveOneShape token.surface reading.candidates reading.numericCandidates

/-- A token gets tables of one shape from a pronouncer that keeps to it. -/
theorem Pronouncer.hasOneShape_of_annotate {pronouncer : Pronouncer σ} {style : Style}
    (hk : ∀ surface s, pronouncer.KeepsShape style surface s) {token token' : Token}
    {s t : Session σ} (h : pronouncer.annotate style token s = (.ok token', t)) :
    token'.HasOneShape := by
  by_cases hp : token.isPronounceable = true
  · rw [annotate, if_pos hp] at h
    obtain ⟨reading, u, hr, hw⟩ := Attempt.bind_ok h
    obtain ⟨rfl, rfl⟩ := Attempt.pure_ok hw
    intro _ kept hkept
    obtain rfl : reading = kept := Option.some.inj hkept
    exact (hk token.surface s).retained reading _ hr
  · rw [annotate, if_neg hp] at h
    obtain ⟨rfl, rfl⟩ := Attempt.pure_ok h
    exact fun hp' => absurd hp' hp

namespace Chinese.Romanizer

/-- A romanizer whose pronouncer keeps to one shape makes batches with tables of one shape. -/
theorem hasOneShape_of_romanize {romanizer : Romanizer σ}
    (hk : ∀ surface s, romanizer.pronouncer.KeepsShape romanizer.style surface s)
    {context : RunContext σ} {batch out : Batch} {s t : Session σ}
    (h : romanize context batch romanizer s = (.ok out, t)) :
    ∀ token ∈ out.tokens, token.HasOneShape :=
  (relates_of_romanize (R := fun _ tokens' => ∀ token ∈ tokens', token.HasOneShape)
    (fun _ hm => (List.not_mem_nil hm).elim) (fun _ _ _ _ _ _ ha hr =>
      List.forall_mem_cons.mpr ⟨Pronouncer.hasOneShape_of_annotate hk ha, hr⟩) h).2.2

/-- The tokens that are romanized with a lexicon have tables of one shape. -/
theorem hasOneShape_of_romanize_ofLexicon {lexicon : Lexicon} {romanizer : Romanizer σ}
    (hp : romanizer.pronouncer = .ofLexicon lexicon) {context : RunContext σ} {batch out : Batch}
    {s t : Session σ} (h : romanize context batch romanizer s = (.ok out, t)) :
    ∀ token ∈ out.tokens, token.HasOneShape :=
  hasOneShape_of_romanize
    (fun _ _ => hp ▸ Pronouncer.keepsShape_ofLexicon ..) h

end Chinese.Romanizer

end Hanyu
