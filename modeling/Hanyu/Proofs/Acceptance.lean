import Hanyu.Lexicon.Written
import Hanyu.Proofs.Success

/-!
# Accepted lexicons

Of a text that decodes to a table of words and a table of readings a lexicon is made when the keys
and the readings of the latter are in order, and the tables are not both empty. Words without
characters are left out only after that, so that nothing may be left of a table that was not empty.

* `read_eq_ok_iff`, `ofTables_eq_ok_iff`: the lexicons that are read, and what they are made of.
* `exists_ofTables_iff`: the tables that are accepted.
* `read_isMeasured`: a lexicon has no empty word, and remembers the length of its longest one.
* `carries_of_ofTables`: a lexicon has something in it when its tables do.
* `isAcceptedForContent_iff`: a text is accepted for what is in its lexicon, but for tables of
  nothing but empty words.
-/

namespace Hanyu.Lexicon

variable {document : Text} {words : List (Text × Text)} {readings : List (Text × List Text)}
  {lexicon : Lexicon}

/-! ## Tables -/

/-- The tables of words and of readings to which a text decodes. -/
def tables? (document : Text) : Option (List (Text × Text) × List (Text × List Text)) :=
  match Toml.read document with
  | .error _ => none
  | .ok entries => do
    let words ← table? entries "words" Toml.Value.text?
    let readings ← table? entries "readings" Toml.Value.texts?
    return (words, readings)

/-- A lexicon that is read is that of the tables of the text. -/
theorem read_eq_ok_iff :
    read document = .ok lexicon ↔ ∃ words readings,
      tables? document = some (words, readings) ∧ ofTables words readings = .ok lexicon := by
  unfold read tables?
  cases Toml.read document with
  | error problem => simp
  | ok entries =>
    cases hwords : table? entries "words" Toml.Value.text? with
    | none => simp [hwords]
    | some words =>
      cases hreadings : table? entries "readings" Toml.Value.texts? with
      | none => simp [hwords, hreadings]
      | some readings =>
        cases ho : ofTables words readings <;> simp [hwords, hreadings, ho, Except.mapError]

theorem read_eq_ok_iff_of_tables? (h : tables? document = some (words, readings)) :
    read document = .ok lexicon ↔ ofTables words readings = .ok lexicon := by
  simp [read_eq_ok_iff, h]

/-- A lexicon is made of all words that are not empty, and of all readings. -/
theorem ofTables_eq_ok_iff :
    ofTables words readings = .ok lexicon ↔
      (words ≠ [] ∨ readings ≠ []) ∧
      (sortBy (fun a b => Text.notAfter a.1 b.1) readings).mapM readingsOfEntry =
        .ok lexicon.readings ∧
      lexicon.words = words.filter (fun word => !word.1.isEmpty) ∧
      lexicon.longest = longestOf lexicon.words := by
  have hempty : (words.isEmpty && readings.isEmpty) = true ↔ ¬(words ≠ [] ∨ readings ≠ []) := by
    simp
  unfold ofTables
  split
  · rename_i h
    exact iff_of_false (by rintro ⟨⟩) fun hl => hempty.mp h hl.1
  · rename_i h
    have hne := Classical.not_not.mp (mt hempty.mpr h)
    rw [and_iff_right hne]
    cases (sortBy (fun a b => Text.notAfter a.1 b.1) readings).mapM readingsOfEntry with
    | error refusal => simp [bind, Except.bind]
    | ok checked =>
      obtain ⟨words', readings', longest⟩ := lexicon
      simp only [bind, Except.bind, pure, Except.pure, Except.ok.injEq, mk.injEq]
      constructor
      · rintro ⟨rfl, rfl, rfl⟩
        exact ⟨rfl, rfl, rfl⟩
      · rintro ⟨rfl, rfl, rfl⟩
        exact ⟨rfl, rfl, rfl⟩

/-- An entry is that of a character, and has no blank reading. -/
structure IsInOrder (entry : Text × List Text) : Prop where
  key : entry.1.length = 1
  readings : ∀ reading ∈ entry.2, reading.isBlank = false

theorem exists_readingsOfEntry_iff {entry : Text × List Text} :
    (∃ reading, readingsOfEntry entry = .ok reading) ↔ IsInOrder entry := by
  obtain ⟨key, texts⟩ := entry
  have hblank : texts.any Text.isBlank = false ↔ ∀ text ∈ texts, text.isBlank = false := by simp
  constructor
  · rintro ⟨reading, h⟩
    unfold readingsOfEntry at h
    split at h
    · rename_i c hc
      split at h
      · cases h
      · rename_i hany
        exact ⟨congrArg List.length hc, hblank.mp (Bool.eq_false_iff.mpr hany)⟩
    · cases h
  · rintro ⟨hkey, htexts⟩
    obtain ⟨c, rfl⟩ := List.length_eq_one_iff.mp hkey
    refine ⟨(c, texts), ?_⟩
    simp only [readingsOfEntry]
    rw [hblank.mpr htexts]
    rfl

/-- Tables are accepted when they are not both empty and the entries of the readings are in
order. -/
theorem exists_ofTables_iff :
    (∃ lexicon, ofTables words readings = .ok lexicon) ↔
      (words ≠ [] ∨ readings ≠ []) ∧ ∀ entry ∈ readings, IsInOrder entry := by
  have hchecked : (∃ checked, (sortBy (fun a b => Text.notAfter a.1 b.1) readings).mapM
      readingsOfEntry = .ok checked) ↔ ∀ entry ∈ readings, IsInOrder entry := by
    simp only [exists_mapM_eq_ok_iff, mem_sortBy, exists_readingsOfEntry_iff]
  simp only [ofTables_eq_ok_iff, ← hchecked]
  constructor
  · rintro ⟨lexicon, hne, hreadings, -⟩
    exact ⟨hne, _, hreadings⟩
  · rintro ⟨hne, checked, hreadings⟩
    exact ⟨⟨_, checked, longestOf _⟩, hne, hreadings, rfl, rfl⟩

/-! ## Lexicons that were read -/

/-- Every word has a character, and none has more than the lexicon remembers. -/
structure IsSound (lexicon : Lexicon) : Prop where
  ne_nil : ∀ entry ∈ lexicon.words, entry.1 ≠ []
  le_longest : ∀ entry ∈ lexicon.words, entry.1.length ≤ lexicon.longest

theorem ofTables_isSound (h : ofTables words readings = .ok lexicon) : lexicon.IsSound := by
  obtain ⟨-, -, hw, hl⟩ := ofTables_eq_ok_iff.mp h
  constructor
  · intro entry he
    rw [hw] at he
    simpa using (List.mem_filter.mp he).2
  · intro entry he
    rw [hl]
    exact length_le_longest he

theorem read_isSound (h : read document = .ok lexicon) : lexicon.IsSound := by
  obtain ⟨_, _, -, ho⟩ := read_eq_ok_iff.mp h
  exact ofTables_isSound ho

theorem exists_length_eq_longestOf (h : words ≠ []) :
    ∃ word ∈ words, word.1.length = longestOf words := by
  induction words with
  | nil => exact absurd rfl h
  | cons first rest ih =>
    have hmax : longestOf (first :: rest) = max first.1.length (longestOf rest) := rfl
    rw [hmax]
    rcases Nat.le_total (longestOf rest) first.1.length with hle | hle
    · exact ⟨first, List.mem_cons_self, (Nat.max_eq_left hle).symm⟩
    · by_cases hrest : rest = []
      · subst hrest
        exact ⟨first, List.mem_cons_self, (Nat.max_eq_left (Nat.zero_le _)).symm⟩
      · obtain ⟨word, hm, hlength⟩ := ih hrest
        exact ⟨word, List.mem_cons_of_mem _ hm, hlength.trans (Nat.max_eq_right hle).symm⟩

/-- A lexicon remembers the length of its longest word, which is that of no word when it has
none. -/
structure IsMeasured (lexicon : Lexicon) : Prop extends IsSound lexicon where
  attained : lexicon.words ≠ [] → ∃ entry ∈ lexicon.words, entry.1.length = lexicon.longest
  zero : lexicon.words = [] → lexicon.longest = 0

theorem read_isMeasured (h : read document = .ok lexicon) : lexicon.IsMeasured := by
  obtain ⟨_, _, -, ho⟩ := read_eq_ok_iff.mp h
  obtain ⟨-, -, -, hl⟩ := ofTables_eq_ok_iff.mp ho
  refine ⟨ofTables_isSound ho, fun hne => ?_, fun hnil => ?_⟩
  · rw [hl]
    exact exists_length_eq_longestOf hne
  · rw [hl, hnil]
    rfl

theorem IsMeasured.eq_empty (hm : lexicon.IsMeasured)
    (h : ¬0 < lexicon.words.length + lexicon.readings.length) : lexicon = .empty := by
  have hwords : lexicon.words = [] := List.length_eq_zero_iff.mp (by omega)
  have hreadings : lexicon.readings = [] := List.length_eq_zero_iff.mp (by omega)
  obtain ⟨words, readings, longest⟩ := lexicon
  obtain rfl : longest = 0 := hm.zero hwords
  cases hwords
  cases hreadings
  rfl

/-! ## Lexicons with something in them -/

/-- A word that is not empty or a key is in the tables. -/
def Carries (words : List (Text × Text)) (readings : List (Text × List Text)) : Prop :=
  (∃ word ∈ words, word.1 ≠ []) ∨ readings ≠ []

/-- There are words in the tables, all of them empty, and no readings. -/
def HoldsOnlyEmptyWords (words : List (Text × Text)) (readings : List (Text × List Text)) : Prop :=
  words ≠ [] ∧ (∀ word ∈ words, word.1 = []) ∧ readings = []

theorem holdsOnlyEmptyWords_iff :
    HoldsOnlyEmptyWords words readings ↔
      (words ≠ [] ∨ readings ≠ []) ∧ ¬Carries words readings := by
  have hcarries : ¬Carries words readings ↔ (∀ word ∈ words, word.1 = []) ∧ readings = [] := by
    simp [Carries]
  rw [hcarries, HoldsOnlyEmptyWords]
  constructor
  · rintro ⟨hne, hwords, hreadings⟩
    exact ⟨.inl hne, hwords, hreadings⟩
  · rintro ⟨hne, hwords, hreadings⟩
    exact ⟨hne.resolve_right (not_not_intro hreadings), hwords, hreadings⟩

theorem carries_iff (h : ¬HoldsOnlyEmptyWords words readings) :
    Carries words readings ↔ words ≠ [] ∨ readings ≠ [] := by
  constructor
  · rintro (⟨word, hm, -⟩ | hreadings)
    · exact .inl (List.ne_nil_of_mem hm)
    · exact .inr hreadings
  · exact fun hne => Classical.byContradiction fun hn => h (holdsOnlyEmptyWords_iff.mpr ⟨hne, hn⟩)

/-- A lexicon has something in it when its tables carry something. -/
theorem carries_of_ofTables (h : ofTables words readings = .ok lexicon) :
    0 < lexicon.words.length + lexicon.readings.length ↔ Carries words readings := by
  obtain ⟨-, hreadings, hwords, -⟩ := ofTables_eq_ok_iff.mp h
  have hword : 0 < lexicon.words.length ↔ ∃ word ∈ words, word.1 ≠ [] := by
    rw [hwords, List.length_pos_iff_exists_mem]
    simp
  have hreading : 0 < lexicon.readings.length ↔ readings ≠ [] := by
    rw [← (mapM_eq_ok_iff.mp hreadings).length_eq, (sortBy_perm _ readings).length_eq,
      List.length_pos_iff]
  rw [Carries, ← hword, ← hreading]
  omega

/-- A text is accepted exactly for tables in order that carry something, and its lexicon has
something in it. -/
structure IsAcceptedForContent (document : Text) (words : List (Text × Text))
    (readings : List (Text × List Text)) : Prop where
  accepted : (∃ lexicon, read document = .ok lexicon) ↔
    (∀ entry ∈ readings, IsInOrder entry) ∧ Carries words readings
  inhabited : ∀ lexicon, read document = .ok lexicon →
    0 < lexicon.words.length + lexicon.readings.length

/-- **Acceptance.** A text that decodes to tables is accepted exactly for tables in order that carry
something, unless there are only empty words in them: it is then accepted for a lexicon with nothing
in it. No lexicon has an empty word, and each remembers the length of its longest one. -/
theorem isAcceptedForContent_iff (h : tables? document = some (words, readings)) :
    (IsAcceptedForContent document words readings ↔ ¬HoldsOnlyEmptyWords words readings) ∧
    (read document = .ok .empty ↔ HoldsOnlyEmptyWords words readings) ∧
    ∀ lexicon, read document = .ok lexicon → lexicon.IsMeasured := by
  have hread : (∃ lexicon, read document = .ok lexicon) ↔
      (words ≠ [] ∨ readings ≠ []) ∧ ∀ entry ∈ readings, IsInOrder entry := by
    simp only [read_eq_ok_iff_of_tables? h, exists_ofTables_iff]
  have hcontent : ∀ lexicon, read document = .ok lexicon →
      (0 < lexicon.words.length + lexicon.readings.length ↔ Carries words readings) :=
    fun _ hlexicon => carries_of_ofTables ((read_eq_ok_iff_of_tables? h).mp hlexicon)
  have hempty : HoldsOnlyEmptyWords words readings → read document = .ok .empty := by
    intro honly
    obtain ⟨hne, hcarries⟩ := holdsOnlyEmptyWords_iff.mp honly
    obtain ⟨lexicon, hlexicon⟩ := hread.mpr ⟨hne, fun entry he => by
      rw [honly.2.2] at he
      exact nomatch he⟩
    rw [hlexicon, (read_isMeasured hlexicon).eq_empty (mt (hcontent lexicon hlexicon).mp hcarries)]
  refine ⟨⟨fun hkeeps honly => ?_, fun honly => ⟨?_, fun lexicon hlexicon => ?_⟩⟩,
    ⟨fun hread => ?_, hempty⟩, fun _ => read_isMeasured⟩
  · exact Nat.lt_irrefl 0 (hkeeps.inhabited .empty (hempty honly))
  · rw [hread, and_comm, carries_iff honly]
  · rw [hcontent lexicon hlexicon, carries_iff honly]
    exact (hread.mp ⟨lexicon, hlexicon⟩).1
  · have hne := (ofTables_eq_ok_iff.mp ((read_eq_ok_iff_of_tables? h).mp hread)).1
    exact holdsOnlyEmptyWords_iff.mpr ⟨hne, mt (hcontent .empty hread).mpr (Nat.lt_irrefl 0)⟩

/-- A lexicon with an empty word besides another one, and with the reading of a character. -/
theorem isAcceptedForContent_iff_two :
    let document := "[words]\n\"\" = \"n\"\n\"好的\" = \"l\"\n[readings]\n\"好\" = [\"hao3\"]\n".toList
    let words := [([], ['n']), ("好的".toList, ['l'])]
    let readings := [(['好'], ["hao3".toList])]
    tables? document = some (words, readings) ∧ IsAcceptedForContent document words readings ∧
      read document = .ok
        ⟨[("好的".toList, ['l'])], [('好', ["hao3".toList])], 2⟩ := by
  intro document words readings
  have htables : tables? document = some (words, readings) := by decide +kernel
  refine ⟨htables, (isAcceptedForContent_iff htables).1.mpr fun honly => ?_, by decide +kernel⟩
  exact List.cons_ne_nil _ _ honly.2.2

/-- The one word of a lexicon is empty: the lexicon is accepted, with nothing in it. -/
theorem accepted_without_content :
    let document := "[words]\n\"\" = \"n\"\n".toList
    tables? document = some ([([], ['n'])], []) ∧ read document = .ok .empty ∧
      ¬IsAcceptedForContent document [([], ['n'])] [] := by
  intro document
  have hread : read document = .ok .empty := by decide +kernel
  refine ⟨by decide +kernel, hread, fun hkeeps => ?_⟩
  exact Nat.lt_irrefl 0 (hkeeps.inhabited .empty hread)

end Hanyu.Lexicon
