import Hanyu.Tone
import Hanyu.Unicode.Case

/-!
# Syllables

A syllable of pinyin is written as letters and a final tone digit (`zhong1`, `lv4`, `nu:3`). Its
letters split into an initial and a final, and one of its vowels carries the tone mark.

* `spellUmlaut_of_forall`: only `v` and `u:` are respelled.
* `initial_append_rest`: the initial and what follows it make up the letters.
* `append_of_tonedVowel?`: the vowel that carries the mark splits the letters in two.
-/

namespace Hanyu

/-- A syllable: its letters in lower case, with `ü` spelled out, and its tone. -/
structure Syllable where
  letters : Text
  tone : Option Tone
deriving DecidableEq, Repr

namespace Syllable

/-- The letters with `ü` for `u:`. -/
def spellColon : Text → Text
  | [] => []
  | 'u' :: ':' :: rest => 'ü' :: spellColon rest
  | c :: rest => c :: spellColon rest

/-- The letters with `ü` for `u:` and for `v`. -/
def spellUmlaut (letters : Text) : Text :=
  (spellColon letters).map fun c => if c = 'v' then 'ü' else c

/-- The syllable that a text writes. One digit at the end is dropped; it gives the tone when it is
one of 1 to 5. -/
def ofText (text : Text) : Syllable :=
  let plain := Unicode.lowercase text.trim
  match plain.getLast? with
  | none => ⟨[], none⟩
  | some c =>
    if c.isDigit then ⟨spellUmlaut plain.dropLast, Tone.ofDigit? c⟩
    else ⟨spellUmlaut plain, none⟩

/-- The initials of pinyin, those of two letters first. -/
def initials : List Text :=
  [['z', 'h'], ['c', 'h'], ['s', 'h'], ['b'], ['p'], ['m'], ['f'], ['d'], ['t'], ['n'], ['l'],
    ['g'], ['k'], ['h'], ['j'], ['q'], ['x'], ['r'], ['z'], ['c'], ['s']]

/-- Whether the letters begin with `initial` and go on after it. -/
def hasInitial (letters initial : Text) : Bool :=
  match letters.rest? initial with
  | some (_ :: _) => true
  | _ => false

/-- The initial of the letters, empty when they have none. -/
def initial (letters : Text) : Text := (initials.find? (hasInitial letters)).getD []

/-- The letters after the initial. -/
def afterInitial (letters : Text) : Text := letters.drop (initial letters).length

/-- The final of the letters. Without an initial the spellings with `y` and `w` are undone; after
`j`, `q` and `x` the letter `u` stands for `ü`. -/
def final (letters : Text) : Text :=
  match initial letters, afterInitial letters with
  | [], 'y' :: 'u' :: rest => 'ü' :: rest
  | [], 'y' :: 'i' :: rest => 'i' :: rest
  | [], 'y' :: rest => 'i' :: rest
  | [], 'w' :: 'u' :: rest => 'u' :: rest
  | [], 'w' :: rest => 'u' :: rest
  | ['j'], 'u' :: rest => 'ü' :: rest
  | ['q'], 'u' :: rest => 'ü' :: rest
  | ['x'], 'u' :: rest => 'ü' :: rest
  | _, rest => rest

/-- A text around one of its characters. -/
structure Around where
  before : Text
  char : Char
  after : Text
deriving DecidableEq, Repr

/-- The text around its first character with a property. -/
def aroundFirst? (p : Char → Bool) : Text → Option Around
  | [] => none
  | c :: rest =>
    if p c then some ⟨[], c, rest⟩
    else (aroundFirst? p rest).map fun a => { a with before := c :: a.before }

/-- The text around the `o` of its first `ou`. -/
def aroundOu? : Text → Option Around
  | [] => none
  | 'o' :: 'u' :: rest => some ⟨[], 'o', 'u' :: rest⟩
  | c :: rest => (aroundOu? rest).map fun a => { a with before := c :: a.before }

/-- The text around its last character with a property. -/
def aroundLast? (p : Char → Bool) : Text → Option Around
  | [] => none
  | c :: rest =>
    match aroundLast? p rest with
    | some a => some { a with before := c :: a.before }
    | none => if p c then some ⟨[], c, rest⟩ else none

/-- The letters around the vowel that carries the tone mark: `a` or `e` if there is one, else the
`o` of `ou`, else the last vowel. -/
def tonedVowel? (letters : Text) : Option Around :=
  aroundFirst? (fun c => c = 'a' || c = 'e') letters <|> aroundOu? letters <|>
    aroundLast? isVowel letters

theorem spellColon_of_forall {letters : Text} (h : ':' ∉ letters) :
    spellColon letters = letters := by
  fun_induction spellColon letters with
  | case1 => rfl
  | case2 => simp at h
  | case3 c rest _ ih => simp only [List.mem_cons, not_or] at h; rw [ih h.2]

theorem spellUmlaut_of_forall {letters : Text} (hc : ':' ∉ letters) (hv : 'v' ∉ letters) :
    spellUmlaut letters = letters := by
  rw [spellUmlaut, spellColon_of_forall hc]
  refine (List.map_congr_left fun c hcl => ?_).trans (List.map_id _)
  exact if_neg fun h : c = 'v' => hv (h ▸ hcl)

theorem initial_append_rest (letters : Text) :
    initial letters ++ afterInitial letters = letters := by
  unfold afterInitial initial
  cases h : initials.find? (hasInitial letters) with
  | none => simp
  | some ini =>
    have hi := List.find?_some h
    unfold hasInitial at hi
    split at hi
    · rename_i c r hr
      rw [Text.rest?_eq_some_iff.mp hr]; simp
    · cases hi

theorem append_of_aroundFirst? {p : Char → Bool} {letters : Text} {a : Around}
    (h : aroundFirst? p letters = some a) : a.before ++ a.char :: a.after = letters := by
  induction letters generalizing a with
  | nil => simp [aroundFirst?] at h
  | cons c rest ih =>
    rw [aroundFirst?] at h
    split at h
    · cases h; rfl
    · obtain ⟨b, hb, rfl⟩ := Option.map_eq_some_iff.mp h
      simp [← ih hb]

theorem append_of_aroundOu? {letters : Text} {a : Around} (h : aroundOu? letters = some a) :
    a.before ++ a.char :: a.after = letters := by
  fun_induction aroundOu? letters generalizing a with
  | case1 => simp at h
  | case2 rest => cases h; rfl
  | case3 c rest _ ih =>
    obtain ⟨b, hb, rfl⟩ := Option.map_eq_some_iff.mp h
    simp [← ih hb]

theorem append_of_aroundLast? {p : Char → Bool} {letters : Text} {a : Around}
    (h : aroundLast? p letters = some a) : a.before ++ a.char :: a.after = letters := by
  induction letters generalizing a with
  | nil => simp [aroundLast?] at h
  | cons c rest ih =>
    rw [aroundLast?] at h
    split at h
    · rename_i b hb
      cases h
      simp [← ih hb]
    · split at h
      · cases h; rfl
      · cases h

theorem append_of_tonedVowel? {letters : Text} {a : Around} (h : tonedVowel? letters = some a) :
    a.before ++ a.char :: a.after = letters := by
  simp only [tonedVowel?, Option.orElse_eq_orElse, Option.orElse_eq_or, Option.or_eq_some_iff] at h
  rcases h with h | ⟨-, h | ⟨-, h⟩⟩
  · exact append_of_aroundFirst? h
  · exact append_of_aroundOu? h
  · exact append_of_aroundLast? h

end Syllable

end Hanyu
