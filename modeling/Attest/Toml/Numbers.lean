import Attest.Toml.Scan

/-!
# Numbers and moments

Integers are decimal with an optional sign, or hexadecimal, octal or binary without one, and fit a
signed word of 64 bits. A single underscore may stand between two digits. Floats and moments are
kept as they are written: a float only has to be smaller than what rounds to infinity, a moment
only has to exist in the calendar.
-/

namespace Attest

namespace Toml

namespace Scan

/-- The value of a digit of a base. -/
def digitIn? (base : Nat) (c : Char) : Option Nat :=
  let value? :=
    if '0' ≤ c ∧ c ≤ '9' then some (c.toNat - 48)
    else if 'a' ≤ c ∧ c ≤ 'f' then some (c.toNat - 87)
    else if 'A' ≤ c ∧ c ≤ 'F' then some (c.toNat - 55)
    else none
  value?.filter (· < base)

/-- The digits behind a digit; an underscore counts if a digit follows it. -/
def moreDigits (base : Nat) (found : List Nat) : List Char → List Nat × List Char
  | '_' :: c :: rest =>
    match digitIn? base c with
    | some d => moreDigits base (d :: found) rest
    | none => (found.reverse, '_' :: c :: rest)
  | c :: rest =>
    match digitIn? base c with
    | some d => moreDigits base (d :: found) rest
    | none => (found.reverse, c :: rest)
  | [] => (found.reverse, [])

/-- At least one digit of a base, zeros in front included. -/
def digits (base : Nat) : Scan (List Nat)
  | c :: rest => (digitIn? base c).map fun d => moreDigits base [d] rest
  | [] => none

/-- A lone zero, or digits without a zero in front. -/
def decimal : Scan (List Nat)
  | '0' :: rest => some ([0], rest)
  | s => digits 10 s

/-- The number that digits spell. -/
def number (base : Nat) (digits : List Nat) : Nat :=
  digits.foldl (fun n d => n * base + d) 0

/-- Whether there is a minus, and the text behind a sign. -/
def sign : List Char → Bool × List Char
  | '-' :: rest => (true, rest)
  | '+' :: rest => (false, rest)
  | s => (false, s)

/-- A number with its sign, if a signed word of 64 bits holds it. -/
def signed? (negative : Bool) (n : Nat) : Option Int :=
  if n < 0x8000000000000000 then some (if negative then -Int.ofNat n else Int.ofNat n)
  else if negative ∧ n = 0x8000000000000000 then some (-Int.ofNat n)
  else none

/-- An integer of a base other than ten, behind its letter. -/
def basedInteger (base : Nat) (s : List Char) : Option (Int × List Char) := do
  let (ds, rest) ← digits base s
  return (← signed? false (number base ds), rest)

/-- An integer. -/
def integer : Scan Int
  | '0' :: 'x' :: rest => basedInteger 16 rest
  | '0' :: 'o' :: rest => basedInteger 8 rest
  | '0' :: 'b' :: rest => basedInteger 2 rest
  | s => do
    let (negative, s) := sign s
    let (ds, rest) ← decimal s
    return (← signed? negative (number 10 ds), rest)

/-- Whether `digits` times ten to the `exponent` rounds to infinity. The comparison is exact; what
has too many or too few places for it is decided by their number. -/
def overflows (digits : List Nat) (exponent : Int) : Bool :=
  let significant := digits.dropWhile (· = 0)
  let n := number 10 significant
  let places := Int.ofNat significant.length + exponent
  let bound := Nat.pow 2 1024 - Nat.pow 2 970
  if significant = [] ∨ places < 309 then false
  else if 309 < places then true
  else if 0 ≤ exponent then bound ≤ n * Nat.pow 10 exponent.toNat
  else bound * Nat.pow 10 (-exponent).toNat ≤ n

/-- The exponent of a float, with its letter. -/
def exponent : Scan Int
  | c :: rest =>
    if c = 'e' ∨ c = 'E' then do
      let (negative, s) := sign rest
      let (ds, rest) ← digits 10 s
      some (if negative then -Int.ofNat (number 10 ds) else Int.ofNat (number 10 ds), rest)
    else none
  | [] => none

/-- The part of `s` in front of its end `rest`. -/
def before (s rest : List Char) : String :=
  String.ofList (s.take (s.length - rest.length))

/-- A float: digits with a fraction, an exponent or both, or one of the two words. -/
def float : Scan String := fun s =>
  let (negative, unsigned) := sign s
  match word? "inf".toList unsigned, word? "nan".toList unsigned with
  | some rest, _ => some (before s rest, rest)
  | none, some rest => some (before s rest, rest)
  | none, none => do
    let (whole, rest) ← decimal unsigned
    let (fraction, rest, dotted) ← match rest with
      | '.' :: rest => (digits 10 rest).map fun (ds, rest) => (ds, rest, true)
      | rest => some ([], rest, false)
    let (power, rest, raised) := match exponent rest with
      | some (power, rest) => (power, rest, true)
      | none => ((0 : Int), rest, false)
    if ¬ dotted ∧ ¬ raised then none
    else if ¬ negative ∧ overflows (whole ++ fraction) (power - Int.ofNat fraction.length) then none
    else some (before s rest, rest)

/-- Exactly `n` digits that spell a number between the bounds. -/
def fixedNumber (n low high : Nat) : Scan Nat := fun s => do
  let ds ← (s.take n).mapM (digitIn? 10)
  let value := number 10 ds
  if ds.length = n ∧ low ≤ value ∧ value ≤ high then some (value, s.drop n) else none

/-- The number of days in a month. -/
def daysIn (year month : Nat) : Nat :=
  if month = 2 then
    if year % 4 = 0 ∧ (year % 100 ≠ 0 ∨ year % 400 = 0) then 29 else 28
  else if month = 4 ∨ month = 6 ∨ month = 9 ∨ month = 11 then 30
  else 31

/-- The text behind a date. -/
def date? (s : List Char) : Option (List Char) := do
  let (year, s) ← fixedNumber 4 0 9999 s
  let s ← char? '-' s
  let (month, s) ← fixedNumber 2 1 12 s
  let s ← char? '-' s
  let (_, s) ← fixedNumber 2 1 (daysIn year month) s
  return s

/-- The text behind a time of day. -/
def time? (s : List Char) : Option (List Char) := do
  let (_, s) ← fixedNumber 2 0 23 s
  let s ← char? ':' s
  let (_, s) ← fixedNumber 2 0 59 s
  let s ← char? ':' s
  let (_, s) ← fixedNumber 2 0 60 s
  match s with
  | '.' :: fraction =>
    match fraction.dropWhile Char.isDigit with
    | rest => if rest.length < fraction.length then some rest else none
  | s => some s

/-- The text behind the distance from universal time, if one stands here. -/
def skipOffset (s : List Char) : List Char :=
  let numbered? (s : List Char) : Option (List Char) := do
    let (_, s) ← fixedNumber 2 0 23 s
    let s ← char? ':' s
    let (_, s) ← fixedNumber 2 0 59 s
    return s
  match s with
  | c :: rest =>
    if c = 'Z' ∨ c = 'z' then rest
    else if c = '+' ∨ c = '-' then (numbered? rest).getD s
    else s
  | [] => []

/-- The text behind a time that follows a date, if one does. -/
def skipTime (s : List Char) : List Char :=
  match s with
  | c :: rest =>
    if c = 'T' ∨ c = 't' ∨ c = ' ' then ((time? rest).map skipOffset).getD s else s
  | [] => []

/-- A date, a date with a time, or a time. -/
def moment : Scan String := fun s => do
  let rest ← ((date? s).map skipTime).or (time? s)
  return (before s rest, rest)

end Scan

end Toml

end Attest
