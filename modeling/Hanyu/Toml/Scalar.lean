import Hanyu.Toml.Value

/-!
# Numbers and date-times of TOML

A value that is not quoted or bracketed is one run of letters, digits and signs. The functions here
say which runs are integers, floats and date-times, and what integers are worth.

* `integer?_zero`: zero is written by one digit.
* `canonicalMoment_of_afterDate?`: a date without a time has one form only.
-/

namespace Hanyu.Toml

/-- The value of a digit in a base of at most 16. -/
def digitValue? (base : Nat) (c : Char) : Option Nat :=
  let value? : Option Nat :=
    if c.isDigit then some (c.toNat - 48)
    else if 'a' ≤ c && c ≤ 'f' then some (c.toNat - 87)
    else if 'A' ≤ c && c ≤ 'F' then some (c.toNat - 55)
    else none
  value?.filter (· < base)

/-- The digits of a run in which single underscores may stand between two digits. -/
def digits? (base : Nat) : Text → Option (List Nat)
  | [] => none
  | [c] => (digitValue? base c).map ([·])
  | c :: '_' :: rest => return (← digitValue? base c) :: (← digits? base rest)
  | c :: rest => return (← digitValue? base c) :: (← digits? base rest)

/-- The number that digits write. -/
def ofDigits (base : Nat) (digits : List Nat) : Nat :=
  digits.foldl (fun n d => n * base + d) 0

/-- The digits of a decimal integer without sign: no zero stands before another digit. -/
def decimal? (run : Text) : Option (List Nat) :=
  match run with
  | '0' :: _ :: _ => none
  | _ => digits? 10 run

/-- A run without its sign, and whether the sign is a minus. -/
def splitSign : Text → Bool × Text
  | '-' :: rest => (true, rest)
  | '+' :: rest => (false, rest)
  | run => (false, run)

/-- The least number above all integers, and the magnitude of the least integer. -/
def integerBound : Int := 9223372036854775808

/-- The value of an integer: decimal with an optional sign, or hexadecimal, octal or binary without
one. It fits in 64 bits. -/
def integer? (run : Text) : Option Int :=
  let value? : Option Int :=
    match run with
    | '0' :: 'x' :: rest => (digits? 16 rest).map (ofDigits 16 ·)
    | '0' :: 'o' :: rest => (digits? 8 rest).map (ofDigits 8 ·)
    | '0' :: 'b' :: rest => (digits? 2 rest).map (ofDigits 2 ·)
    | _ =>
      let (negative, rest) := splitSign run
      (decimal? rest).map fun digits =>
        if negative then -(ofDigits 10 digits : Int) else ofDigits 10 digits
  value?.filter fun n => -integerBound ≤ n && n < integerBound

theorem integer?_zero : integer? ['0'] = some 0 := by decide

/-- The least number that rounds to no finite double: it is half a unit above the greatest one. -/
def doubleBound : Nat := Nat.pow 2 1024 - Nat.pow 2 970

/-- Whether `m` times ten to the power of `e` rounds to no finite double. -/
def overflows (m : Nat) (e : Int) : Bool :=
  let size : Int := (Nat.toDigits 10 m).length + e
  if m = 0 || size < 300 then false
  else if size > 320 then true
  else if 0 ≤ e then doubleBound ≤ m * Nat.pow 10 e.toNat
  else doubleBound * Nat.pow 10 (-e).toNat ≤ m

/-- A run cut at its first character with a property, without that character. -/
def cutAt? (p : Char → Bool) (run : Text) : Text × Option Text :=
  match run.dropWhile (!p ·) with
  | [] => (run, none)
  | _ :: rest => (run.takeWhile (!p ·), some rest)

/-- Whether a run is a float: an integer with a fraction, an exponent or both, not above the
greatest double; an infinity; or no number. -/
def isFloat (run : Text) : Bool :=
  let (negative, rest) := splitSign run
  if rest = ['i', 'n', 'f'] || rest = ['n', 'a', 'n'] then true else
  let (mantissa, exponent?) := cutAt? (fun c => c = 'e' || c = 'E') rest
  let (whole, fraction?) := cutAt? (· = '.') mantissa
  let exponentDigits? : Option (Bool × List Nat) :=
    match exponent? with
    | none => some (false, [0])
    | some exponent =>
      (digits? 10 (splitSign exponent).2).map fun digits => ((splitSign exponent).1, digits)
  let fractionDigits? : Option (List Nat) :=
    match fraction? with
    | none => some []
    | some fraction => digits? 10 fraction
  match decimal? whole, fractionDigits?, exponentDigits? with
  | some whole, some fraction, some (down, exponent) =>
    let e : Int := if down then -(ofDigits 10 exponent : Int) else ofDigits 10 exponent
    (exponent?.isSome || fraction?.isSome) &&
      (negative || !overflows (ofDigits 10 (whole ++ fraction)) (e - fraction.length))
  | _, _, _ => false

/-- The value of two decimal digits. -/
def twoDigits? (a b : Char) : Option Nat :=
  return 10 * (← digitValue? 10 a) + (← digitValue? 10 b)

/-- The number of days of a month. -/
def daysOfMonth (year month : Nat) : Nat :=
  if month = 2 then
    if year % 4 = 0 && (year % 100 != 0 || year % 400 = 0) then 29 else 28
  else if [4, 6, 9, 11].contains month then 30 else 31

/-- What follows a date at the beginning of a run. -/
def afterDate? : Text → Option Text
  | a :: b :: c :: d :: '-' :: m :: n :: '-' :: x :: y :: rest => do
    let year := 100 * (← twoDigits? a b) + (← twoDigits? c d)
    let month ← twoDigits? m n
    let day ← twoDigits? x y
    if 1 ≤ month && month ≤ 12 && 1 ≤ day && day ≤ daysOfMonth year month then some rest else none
  | _ => none

/-- What follows a time of day, with or without a fraction of a second, at the beginning of a
run. -/
def afterTime? : Text → Option Text
  | a :: b :: ':' :: c :: d :: ':' :: e :: f :: rest => do
    let hour ← twoDigits? a b
    let minute ← twoDigits? c d
    let second ← twoDigits? e f
    if 23 < hour || 59 < minute || 60 < second then none else
    match rest with
    | '.' :: x :: more => if x.isDigit then some (more.dropWhile Char.isDigit) else none
    | _ => some rest
  | _ => none

/-- Whether a run is nothing or an offset from universal time. -/
def isOffset : Text → Bool
  | [] => true
  | ['Z'] => true
  | ['z'] => true
  | [sign, a, b, ':', c, d] =>
    (sign = '+' || sign = '-') &&
      match twoDigits? a b, twoDigits? c d with
      | some hour, some minute => hour ≤ 23 && minute ≤ 59
      | _, _ => false
  | _ => false

/-- Whether a run is a time of day with an optional offset. -/
def isTimeWithOffset (run : Text) : Bool :=
  match afterTime? run with
  | some rest => isOffset rest
  | none => false

/-- Whether a run is a date, a time of day, or a date and a time with an optional offset. -/
def isMoment (run : Text) : Bool :=
  match afterDate? run with
  | some [] => true
  | some (c :: rest) => (c = 'T' || c = 't') && isTimeWithOffset rest
  | none => afterTime? run = some []

/-- The fraction of a second in canonical form: at most nine digits, the last of which is not
zero. -/
def canonicalFraction (digits : Text) : Text :=
  match ((digits.take 9).reverse.dropWhile (· = '0')).reverse with
  | [] => []
  | kept => '.' :: kept

/-- An offset in canonical form: its letter is a capital one, and the sign of a zero offset is
plus. -/
def canonicalOffset : Text → Text
  | ['z'] => ['Z']
  | ['-', '0', '0', ':', '0', '0'] => ['+', '0', '0', ':', '0', '0']
  | offset => offset

/-- A time of day with an optional offset in canonical form. -/
def canonicalTime (run : Text) : Text :=
  run.take 8 ++ match run.drop 8 with
  | '.' :: rest =>
    canonicalFraction (rest.takeWhile Char.isDigit) ++ canonicalOffset (rest.dropWhile Char.isDigit)
  | offset => canonicalOffset offset

/-- A date-time in canonical form: a capital `T` stands before the time. -/
def canonicalMoment (run : Text) : Text :=
  if (afterDate? run).isNone then canonicalTime run else
  match run.drop 10 with
  | [] => run
  | _ :: time => run.take 10 ++ 'T' :: canonicalTime time

theorem canonicalMoment_of_afterDate? {run : Text} (h : afterDate? run = some []) :
    canonicalMoment run = run := by
  have hd : run.drop 10 = [] := by
    unfold afterDate? at h
    split at h
    · simp only [Option.bind_eq_bind, Option.bind_eq_some_iff] at h
      obtain ⟨_, -, _, -, _, -, _, -, h⟩ := h
      split at h
      · simpa using h
      · cases h
    · cases h
  simp [canonicalMoment, h, hd]

/-- The value of a run. -/
def scalar? (run : Text) : Option Value :=
  if run = ['t', 'r', 'u', 'e'] then some (.boolean true)
  else if run = ['f', 'a', 'l', 's', 'e'] then some (.boolean false)
  else if isMoment run then some (.moment (canonicalMoment run))
  else if isFloat run then some (.float run)
  else (integer? run).map .integer

end Hanyu.Toml
