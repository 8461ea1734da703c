import Hanyu.Proofs.CandidateTables

/-!
# Resolution of tokens

A token is resolved in its place by two calls to a pronouncer. Either it gets its reading, or it is
left as it was; a token that is not to be pronounced costs no call.

* `Reading.splitOn_joinFirsts`: the chosen reading splits into a candidate for each character.
* `Reading.toneOf_singleton`: the tone of a character is the digit its numeric candidate ends in.
* `Pronouncer.noting`: the pronouncer that writes down what it is asked, and answers as before.
* `Pronouncer.resolves`: how a token is resolved, and what the pronouncer is asked for it.
-/

namespace Hanyu

variable {σ τ : Type}

/-! ## Chosen candidates -/

/-- The tone that a syllable ends with is read from its last digit, if it is one syllable. -/
theorem Tone.ofSyllable?_eq_some {numeric : Text} {tone : Tone} :
    Tone.ofSyllable? numeric = some tone ↔
      (∀ c ∈ numeric, Unicode.isBlank c = false) ∧ ∃ before, numeric = before ++ [tone.digit] := by
  unfold Tone.ofSyllable?
  by_cases hb : numeric.any Unicode.isBlank = true
  · rw [if_pos hb]
    obtain ⟨c, hc, hblank⟩ := List.any_eq_true.mp hb
    refine ⟨fun h => absurd h nofun, fun h => ?_⟩
    rw [h.1 c hc] at hblank
    cases hblank
  · rw [if_neg hb, Option.bind_eq_some_iff]
    have hall : ∀ c ∈ numeric, Unicode.isBlank c = false := by simpa using hb
    simp only [Tone.ofDigit?_eq_some_iff, exists_eq_right, List.getLast?_eq_some_iff,
      and_iff_right hall]

namespace Reading

variable {surface : Text} {display numeric : List (List Text)}

/-- The chosen reading splits at its spaces into the first candidates of all characters, and an
empty place for a character that has none. -/
theorem splitOn_joinFirsts {tables : List (List Text)} (hne : tables ≠ [])
    (h : ∀ candidates ∈ tables, ∀ candidate ∈ candidates, ' ' ∉ candidate) :
    (joinFirsts tables).splitOn ' ' = tables.map fun candidates => candidates.headD [] := by
  refine List.splitOn_intercalate ' ' ?_ (by simpa using hne)
  intro first hfirst
  obtain ⟨candidates, hc, rfl⟩ := List.mem_map.mp hfirst
  cases candidates with
  | nil => exact List.not_mem_nil
  | cons candidate rest => exact h _ hc _ List.mem_cons_self

@[simp] theorem joinFirsts_singleton (candidates : List Text) :
    joinFirsts [candidates] = candidates.headD [] := by
  simp [joinFirsts, Text.join]

theorem toneOf_of_length_ne (h : surface.length ≠ 1) (numeric : Text) :
    toneOf surface numeric = none := if_neg h

/-- A single character has the tone in whose digit its numeric reading ends. -/
theorem toneOf_singleton {numeric : Text} (h : surface.length = 1) {number : UInt8} :
    toneOf surface numeric = some number ↔
      ∃ tone : Tone, tone.number = number ∧ (∀ c ∈ numeric, Unicode.isBlank c = false) ∧
        ∃ before, numeric = before ++ [tone.digit] := by
  rw [toneOf, if_pos h, Option.map_eq_some_iff]
  exact exists_congr fun tone => by rw [Tone.ofSyllable?_eq_some, and_comm]

/-- What a reading of a surface retains of two tables, in a style and with tone digits. -/
structure Retains (reading : Reading) (surface : Text) (display numeric : List (List Text)) :
    Prop where
  candidates : reading.candidates = display
  numericCandidates : reading.numericCandidates = numeric
  /-- Split at its spaces, the chosen reading has the first candidate of each character. -/
  splitsPrimary : (∀ candidates ∈ display, ∀ candidate ∈ candidates, ' ' ∉ candidate) →
    reading.primary.splitOn ' ' = display.map fun candidates => candidates.headD []
  /-- So has the chosen reading with tone digits. -/
  splitsNumeric : (∀ candidates ∈ numeric, ∀ candidate ∈ candidates, ' ' ∉ candidate) →
    reading.numeric.splitOn ' ' = numeric.map fun candidates => candidates.headD []
  lexicalTone : reading.lexicalTone = reading.tone
  /-- Only a single character has a tone. -/
  toneless : surface.length ≠ 1 → reading.tone = none
  /-- Its tone is the digit from 1 to 5 that its first numeric candidate ends in, which has to be a
  syllable without blanks. -/
  tone : ∀ candidates, numeric = [candidates] → ∀ number, reading.tone = some number ↔
    ∃ tone : Tone, tone.number = number ∧
      (∀ c ∈ candidates.headD [], Unicode.isBlank c = false) ∧
        ∃ before, candidates.headD [] = before ++ [tone.digit]
  toneSandhi : reading.toneSandhi = false

/-- Tables are refused exactly when the numbers of their lists differ, from each other or from that
of the characters. -/
theorem ofTables_eq_error_iff {style : Style} :
    (∃ fault, ofTables surface style display numeric = .error fault) ↔
      display.length ≠ numeric.length ∨ display.length ≠ surface.length := by
  constructor
  · rintro ⟨fault, h⟩
    refine Decidable.byContradiction fun hl => ?_
    have hlengths : display.length = surface.length ∧ numeric.length = surface.length := by omega
    obtain ⟨reading, hr, -⟩ := ofTables_of_length style hlengths.1 hlengths.2
    rw [hr] at h
    cases h
  · intro h
    have hlengths : ¬(display.length = surface.length ∧ numeric.length = surface.length) := by omega
    obtain ⟨mismatch, hm⟩ := ofTables_of_length_ne style hlengths
    exact ⟨_, hm⟩

/-- A reading retains the tables that it is made of. -/
theorem retains_of_ofTables {style : Style} {reading : Reading} (hs : surface ≠ [])
    (h : ofTables surface style display numeric = .ok reading) :
    reading.Retains surface display numeric := by
  obtain ⟨hd, hn, -⟩ := ofTables_eq_ok h
  have hne : ∀ tables : List (List Text), tables.length = surface.length → tables ≠ [] := by
    rintro tables hl rfl
    exact hs (List.length_eq_zero_iff.mp hl.symm)
  rw [ofTables, if_neg (by omega), if_neg (by omega)] at h
  obtain rfl := Except.ok.inj h
  refine ⟨rfl, rfl, splitOn_joinFirsts (hne _ hd), splitOn_joinFirsts (hne _ hn), rfl,
    fun hl => toneOf_of_length_ne hl _, fun candidates hone number => ?_, rfl⟩
  subst hone
  rw [← joinFirsts_singleton]
  exact toneOf_singleton hn.symm

end Reading

/-! ## Notes of questions -/

/-- A question to a pronouncer. -/
structure Question where
  text : Text
  style : Style
  /-- Whether it is about all candidates, and not only the first. -/
  all : Bool
deriving DecidableEq, Repr

/-- The session with other notes. -/
def Session.mapNotes (f : σ → τ) (session : Session σ) : Session τ :=
  ⟨session.signals, session.stageTotal, f session.notes⟩

namespace Pronouncer

variable {pronouncer : Pronouncer σ} {style : Style} {surface : Text} {s t u : Session σ}
  {display numeric : List (List Text)} {fault : Fault}

/-- The pronouncer that writes down what it is asked, the first question first. -/
def noting (pronouncer : Pronouncer σ) : Pronouncer (List Question × σ) :=
  fun text style all (questions, notes) =>
    let reply := pronouncer text style all notes
    ⟨reply.answer, (questions ++ [⟨text, style, all⟩], reply.notes), reply.raises⟩

/-- A pronouncer that writes its questions down answers as before. -/
theorem consult_noting (pronouncer : Pronouncer σ) (questions : List Question) (text : Text)
    (style : Style) (all : Bool) {result : Except Fault (List (List Text))}
    (h : (Session.consult (pronouncer text style all)).run s = (result, t)) :
    (Session.consult (pronouncer.noting text style all)).run (s.mapNotes (Prod.mk questions)) =
      (result, t.mapNotes (Prod.mk (questions ++ [⟨text, style, all⟩]))) := by
  cases h
  rfl

/-! ## Two calls -/

theorem reading_of_display_error
    (hd : (Session.consult (pronouncer surface style true)).run s = (.error fault, t)) :
    (pronouncer.reading style surface).run s = (.error fault, t) := by
  rw [reading, Attempt.run_bind_error hd]

theorem reading_of_numeric_error
    (hd : (Session.consult (pronouncer surface style true)).run s = (.ok display, t))
    (hn : (Session.consult (pronouncer surface .tone3 true)).run t = (.error fault, u)) :
    (pronouncer.reading style surface).run s = (.error fault, u) := by
  rw [reading, Attempt.run_bind_ok hd, Attempt.run_bind_error hn]

theorem reading_of_answers
    (hd : (Session.consult (pronouncer surface style true)).run s = (.ok display, t))
    (hn : (Session.consult (pronouncer surface .tone3 true)).run t = (.ok numeric, u)) :
    (pronouncer.reading style surface).run s =
      (Reading.ofTables surface style display numeric, u) := by
  rw [reading, Attempt.run_bind_ok hd, Attempt.run_bind_ok hn]
  rfl

/-- How a surface is read: who is asked, and what comes of it. -/
inductive Reads (pronouncer : Pronouncer σ) (style : Style) (surface : Text) (s : Session σ) :
    Except Fault Reading → Session σ → List Question → Prop where
  /-- The call for the style to be shown fails. -/
  | display {fault : Fault} {t : Session σ}
      (hd : (Session.consult (pronouncer surface style true)).run s = (.error fault, t)) :
      Reads pronouncer style surface s (.error fault) t [⟨surface, style, true⟩]
  /-- The call for tone digits fails. -/
  | numeric {display : List (List Text)} {t : Session σ} {fault : Fault} {u : Session σ}
      (hd : (Session.consult (pronouncer surface style true)).run s = (.ok display, t))
      (hn : (Session.consult (pronouncer surface .tone3 true)).run t = (.error fault, u)) :
      Reads pronouncer style surface s (.error fault) u
        [⟨surface, style, true⟩, ⟨surface, .tone3, true⟩]
  /-- Both calls are answered. -/
  | answers {display : List (List Text)} {t : Session σ} {numeric : List (List Text)}
      {u : Session σ}
      (hd : (Session.consult (pronouncer surface style true)).run s = (.ok display, t))
      (hn : (Session.consult (pronouncer surface .tone3 true)).run t = (.ok numeric, u)) :
      Reads pronouncer style surface s (Reading.ofTables surface style display numeric) u
        [⟨surface, style, true⟩, ⟨surface, .tone3, true⟩]

/-- Every surface is read in one of these ways, with or without notes. -/
theorem reads (pronouncer : Pronouncer σ) (style : Style) (surface : Text) (s : Session σ) :
    ∃ result t questions, pronouncer.Reads style surface s result t questions ∧
      (pronouncer.reading style surface).run s = (result, t) ∧
      (pronouncer.noting.reading style surface).run (s.mapNotes (Prod.mk [])) =
        (result, t.mapNotes (Prod.mk questions)) := by
  cases hd : (Session.consult (pronouncer surface style true)).run s with
  | mk first t =>
    have hd' := consult_noting pronouncer [] surface style true hd
    cases first with
    | error fault =>
      exact ⟨_, _, _, .display hd, reading_of_display_error hd, reading_of_display_error hd'⟩
    | ok display =>
      cases hn : (Session.consult (pronouncer surface .tone3 true)).run t with
      | mk second u =>
        have hn' := consult_noting pronouncer [⟨surface, style, true⟩] surface .tone3 true hn
        cases second with
        | error fault =>
          exact ⟨_, _, _, .numeric hd hn, reading_of_numeric_error hd hn,
            reading_of_numeric_error hd' hn'⟩
        | ok numeric =>
          exact ⟨_, _, _, .answers hd hn, reading_of_answers hd hn, reading_of_answers hd' hn'⟩

/-! ## Tokens -/

/-- Why a surface gets no reading. -/
inductive Refuses (pronouncer : Pronouncer σ) (style : Style) (surface : Text) (s : Session σ) :
    Prop where
  /-- The call for the style to be shown fails. -/
  | display (fault : Fault) (t : Session σ)
      (hd : (Session.consult (pronouncer surface style true)).run s = (.error fault, t))
  /-- The call for tone digits fails. -/
  | numeric (display : List (List Text)) (t : Session σ) (fault : Fault) (u : Session σ)
      (hd : (Session.consult (pronouncer surface style true)).run s = (.ok display, t))
      (hn : (Session.consult (pronouncer surface .tone3 true)).run t = (.error fault, u))
  /-- The numbers of lists in the answers differ, from each other or from that of the characters. -/
  | counts (display : List (List Text)) (t : Session σ) (numeric : List (List Text))
      (u : Session σ)
      (hd : (Session.consult (pronouncer surface style true)).run s = (.ok display, t))
      (hn : (Session.consult (pronouncer surface .tone3 true)).run t = (.ok numeric, u))
      (hc : display.length ≠ numeric.length ∨ display.length ≠ surface.length)

/-- What is asked for a surface: about tone digits only after the first question is answered. -/
def questionsFor (style : Style) (surface : Text) : Except Fault (List (List Text)) → List Question
  | .error _ => [⟨surface, style, true⟩]
  | .ok _ => [⟨surface, style, true⟩, ⟨surface, .tone3, true⟩]

theorem Reads.questions_eq {result : Except Fault Reading} {questions : List Question}
    (h : pronouncer.Reads style surface s result t questions) : questions =
      questionsFor style surface ((Session.consult (pronouncer surface style true)).run s).1 := by
  cases h with
  | display hd => rw [hd]; rfl
  | numeric hd hn => rw [hd]; rfl
  | answers hd hn => rw [hd]; rfl

theorem Reads.error_iff {result : Except Fault Reading} {questions : List Question}
    (h : pronouncer.Reads style surface s result t questions) :
    (∃ fault, result = .error fault) ↔ pronouncer.Refuses style surface s := by
  cases h with
  | display hd => exact iff_of_true ⟨_, rfl⟩ (.display _ _ hd)
  | numeric hd hn => exact iff_of_true ⟨_, rfl⟩ (.numeric _ _ _ _ hd hn)
  | answers hd hn =>
    rw [Reading.ofTables_eq_error_iff]
    refine ⟨.counts _ _ _ _ hd hn, fun hr => ?_⟩
    cases hr with
    | display _ _ hd' => cases hd.symm.trans hd'
    | numeric _ _ _ _ hd' hn' =>
      cases hd.symm.trans hd'
      cases hn.symm.trans hn'
    | counts _ _ _ _ hd' hn' hc =>
      cases hd.symm.trans hd'
      cases hn.symm.trans hn'
      exact hc

/-- A reading that is made retains both answers. -/
theorem Reads.retains {reading : Reading} {questions : List Question} (hs : surface ≠ [])
    (h : pronouncer.Reads style surface s (.ok reading) t questions) :
    ∃ display numeric between,
      (Session.consult (pronouncer surface style true)).run s = (.ok display, between) ∧
      (Session.consult (pronouncer surface .tone3 true)).run between = (.ok numeric, t) ∧
      reading.Retains surface display numeric := by
  generalize hr : Except.ok reading = result at h
  cases h with
  | display hd => cases hr
  | numeric hd hn => cases hr
  | answers hd hn => exact ⟨_, _, _, hd, hn, Reading.retains_of_ofTables hs hr.symm⟩

/-- How a token is resolved by a pronouncer: the result, the token and the session afterwards, and
what the pronouncer was asked. -/
structure Resolves (pronouncer : Pronouncer σ) (style : Style) (token : Token) (s : Session σ)
    (result : Except Fault Unit) (token' : Token) (t : Session σ) (questions : List Question) :
    Prop where
  /-- A token that cannot be resolved is left as it was. -/
  unchanged : ∀ fault, result = .error fault → token' = token
  /-- A token that is not to be pronounced is its own romanization, and nobody is asked. -/
  asIs : token.isPronounceable = false →
    result = .ok () ∧ token' = { token with romanization := token.surface } ∧ questions = []
  /-- For another token one call is made in the style, and after its success one for tone digits. -/
  asked : token.isPronounceable = true → questions = questionsFor style token.surface
    ((Session.consult (pronouncer token.surface style true)).run s).1
  fails : token.isPronounceable = true →
    ((∃ fault, result = .error fault) ↔ pronouncer.Refuses style token.surface s)
  /-- A token that is resolved has a reading that retains both answers. -/
  resolved : token.isPronounceable = true → result = .ok () →
    ∃ display numeric between reading,
      (Session.consult (pronouncer token.surface style true)).run s = (.ok display, between) ∧
      (Session.consult (pronouncer token.surface .tone3 true)).run between = (.ok numeric, t) ∧
      token' = { token with romanization := reading.primary, details := .chinese reading } ∧
      reading.Retains token.surface display numeric

theorem resolves_of_not_isPronounceable {token : Token} (h : token.isPronounceable = false) :
    pronouncer.Resolves style token s (.ok ()) token.romanizedAsIs s [] where
  unchanged _ hr := absurd hr nofun
  asIs _ := ⟨rfl, rfl, rfl⟩
  asked hp := absurd hp (by simp [h])
  fails hp := absurd hp (by simp [h])
  resolved hp := absurd hp (by simp [h])

theorem surface_ne_nil_of_isPronounceable {token : Token} (h : token.isPronounceable = true) :
    token.surface ≠ [] := by
  intro hs
  simp [Token.isPronounceable, Text.isHanText, hs] at h

theorem resolves_of_reads {token : Token} (h : token.isPronounceable = true) {reading : Reading}
    {questions : List Question}
    (hr : pronouncer.Reads style token.surface s (.ok reading) t questions) :
    pronouncer.Resolves style token s (.ok ()) (token.withReading reading) t questions where
  unchanged _ hr := absurd hr nofun
  asIs hp := absurd hp (by simp [h])
  asked _ := hr.questions_eq
  fails _ := by
    rw [← hr.error_iff]
    simp
  resolved _ _ := by
    obtain ⟨display, numeric, between, hd, hn, hkept⟩ :=
      hr.retains (surface_ne_nil_of_isPronounceable h)
    exact ⟨display, numeric, between, reading, hd, hn, rfl, hkept⟩

theorem resolves_of_reads_error {token : Token} (h : token.isPronounceable = true)
    {questions : List Question}
    (hr : pronouncer.Reads style token.surface s (.error fault) t questions) :
    pronouncer.Resolves style token s (.error fault) token t questions where
  unchanged _ _ := rfl
  asIs hp := absurd hp (by simp [h])
  asked _ := hr.questions_eq
  fails _ := by
    rw [← hr.error_iff]
    simp
  resolved _ hr := absurd hr nofun

/-- **Resolution of a token.** A token is resolved in its place or left as it was, with and without
notes of the questions. Nobody is asked for a token that is not to be pronounced; for another one
the two calls decide whether it is resolved, and what its reading retains. -/
theorem resolves (pronouncer : Pronouncer σ) (style : Style) (token : Token) (s : Session σ) :
    ∃ result token' t questions,
      (pronouncer.annotateInPlace style).run (token, s) = (result, token', t) ∧
      (pronouncer.noting.annotateInPlace style).run (token, s.mapNotes (Prod.mk [])) =
        (result, token', t.mapNotes (Prod.mk questions)) ∧
      pronouncer.Resolves style token s result token' t questions := by
  simp only [run_annotateInPlace]
  by_cases h : token.isPronounceable = true
  · simp only [annotate, if_pos h]
    obtain ⟨result, t, questions, hreads, hr, hr'⟩ := pronouncer.reads style token.surface s
    cases result with
    | ok reading =>
      rw [Attempt.run_bind_ok hr, Attempt.run_bind_ok hr']
      exact ⟨_, _, _, _, rfl, rfl, resolves_of_reads h hreads⟩
    | error fault =>
      rw [Attempt.run_bind_error hr, Attempt.run_bind_error hr']
      exact ⟨_, _, _, _, rfl, rfl, resolves_of_reads_error h hreads⟩
  · have hp : token.isPronounceable = false := by simpa using h
    rw [annotate_of_not_isPronounceable hp, annotate_of_not_isPronounceable hp]
    exact ⟨_, _, _, _, rfl, rfl, resolves_of_not_isPronounceable hp⟩

end Pronouncer

end Hanyu
