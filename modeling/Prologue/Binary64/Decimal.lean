import Prologue.Binary64.Basic
import Prologue.Text.Digits

/-! Decimal texts of doubles: reading a written number, and the fewest digits that read back. -/

namespace Prologue

namespace Binary64

/-- The exponent part of a written number, which may be absent. -/
def exponentPart? : List Char → Option Int
  | [] => some 0
  | c :: rest =>
    if c == 'e' || c == 'E' then
      match rest with
      | '-' :: digits => (digitsValue? 10 digits).map fun n => -(n : Int)
      | '+' :: digits => (digitsValue? 10 digits).map fun n => (n : Int)
      | digits => (digitsValue? 10 digits).map fun n => (n : Int)
    else none

/-- A number without its sign: digits, a point and digits, an exponent. One digit must stand somewhere before
the exponent. -/
def unsigned? (negative : Bool) (cs : List Char) : Option Binary64 := do
  let whole := cs.takeWhile Char.isDigit
  let afterWhole := cs.dropWhile Char.isDigit
  let (fraction, afterFraction) := match afterWhole with
    | '.' :: rest => (rest.takeWhile Char.isDigit, rest.dropWhile Char.isDigit)
    | rest => ([], rest)
  let digits ← digitsValue? 10 (whole ++ fraction)
  let exponent ← exponentPart? afterFraction
  some (ofDecimal negative digits (exponent - fraction.length))

/-- The words for values that have no digits, in lower case. -/
def named? (negative : Bool) (cs : List Char) : Option Binary64 :=
  let word := cs.map Char.toLower
  if word == "inf".toList || word == "infinity".toList then some (.infinite negative)
  else if word == "nan".toList then some .nan
  else none

/-- Reads a decimal text with an optional sign, rounding correctly. -/
def ofText? (cs : List Char) : Option Binary64 :=
  let (negative, rest) := match cs with
    | '-' :: rest => (true, rest)
    | '+' :: rest => (false, rest)
    | rest => (false, rest)
  (unsigned? negative rest).or (named? negative rest)

/-- A positive decimal `digits * 10 ^ exponent`. -/
structure Digits where
  digits : Nat
  exponent : Int
deriving DecidableEq, Repr

/-- A positive quotient of natural numbers. -/
structure Quotient where
  numerator : Nat
  denominator : Nat

/-- `mantissa * 2 ^ exponent` as a quotient. -/
def Quotient.ofPower (mantissa : Nat) (exponent : Int) : Quotient :=
  if exponent ≥ 0 then ⟨mantissa * powerOfTwo exponent.toNat, 1⟩ else ⟨mantissa, powerOfTwo (-exponent).toNat⟩

/-- The value in units of `10 ^ exponent`. -/
def Quotient.inUnits (q : Quotient) (exponent : Int) : Quotient :=
  if exponent ≥ 0 then ⟨q.numerator, q.denominator * powerOfTen exponent.toNat⟩
  else ⟨q.numerator * powerOfTen (-exponent).toNat, q.denominator⟩

def Quotient.less (p q : Quotient) : Bool := p.numerator * q.denominator < q.numerator * p.denominator

/-- How many places a positive quotient below one is shifted left to reach one. -/
def leadingPlaces (q : Quotient) : (fuel : Nat) → (places : Nat) → Nat
  | 0, places => places
  | fuel + 1, places =>
    if q.numerator * powerOfTen places ≥ q.denominator then places else leadingPlaces q fuel (places + 1)

/-- The power of ten of the first digit. -/
def Quotient.leadingExponent (q : Quotient) : Int :=
  if q.numerator ≥ q.denominator then ((Nat.toDigits 10 (q.numerator / q.denominator)).length : Int) - 1
  else -(leadingPlaces q 400 1 : Int)

/-- The reals that round to a given double, with its value. The ends belong to it when the mantissa is even. -/
structure Interval where
  value : Quotient
  low : Quotient
  high : Quotient
  closed : Bool

def Interval.ofFinite (mantissa : Nat) (exponent : Int) : Interval :=
  let narrow := mantissa == powerOfTwo 52 && exponent > leastExponent
  { value := .ofPower mantissa exponent
    low := if narrow then .ofPower (4 * mantissa - 1) (exponent - 2) else .ofPower (2 * mantissa - 1) (exponent - 1)
    high := .ofPower (2 * mantissa + 1) (exponent - 1)
    closed := mantissa % 2 == 0 }

def Interval.holds (interval : Interval) (candidate : Quotient) : Bool :=
  if interval.closed then !candidate.less interval.low && !interval.high.less candidate
  else interval.low.less candidate && candidate.less interval.high

/-- The member of the interval on the grid of multiples of `10 ^ exponent` that is nearest to the value; on a tie
the upper one if `tieUp`, else the one with an even last digit. -/
def Interval.onGrid (interval : Interval) (tieUp : Bool) (exponent : Int) : Option Digits :=
  let scaled := interval.value.inUnits exponent
  let below := scaled.numerator / scaled.denominator
  let remainder := scaled.numerator % scaled.denominator
  let point (n : Nat) : Quotient :=
    if exponent ≥ 0 then ⟨n * powerOfTen exponent.toNat, 1⟩ else ⟨n, powerOfTen (-exponent).toNat⟩
  let lower := below > 0 && interval.holds (point below)
  let upper := interval.holds (point (below + 1))
  let up := 2 * remainder > scaled.denominator ||
    (2 * remainder == scaled.denominator && (tieUp || below % 2 == 1))
  if lower && upper then some ⟨if up then below + 1 else below, exponent⟩
  else if lower then some ⟨below, exponent⟩
  else if upper then some ⟨below + 1, exponent⟩
  else none

/-- Tries one digit, then two, and so on. -/
def Interval.fewest (interval : Interval) (tieUp : Bool) (exponent : Int) : (tries : Nat) → Digits
  | 0 => ⟨0, exponent⟩
  | tries + 1 =>
    match interval.onGrid tieUp exponent with
    | some digits => digits
    | none => interval.fewest tieUp (exponent - 1) tries

/-- Moves trailing zeros of the digits into the exponent. -/
def Digits.trim : (fuel : Nat) → Digits → Digits
  | 0, d => d
  | fuel + 1, d => if d.digits % 10 == 0 && d.digits > 0 then Digits.trim fuel ⟨d.digits / 10, d.exponent + 1⟩ else d

/-- The fewest digits that read back as `mantissa * 2 ^ exponent`, and of those the nearest. -/
def shortest (tieUp : Bool) (mantissa : Nat) (exponent : Int) : Digits :=
  if mantissa == 0 then ⟨0, 0⟩
  else
    let interval := Interval.ofFinite mantissa exponent
    (interval.fewest tieUp interval.value.leadingExponent 20).trim 20

/-- How a number is laid out: which powers of ten of the first digit are written without an exponent, and where the
digits of an exact tie go. -/
structure Layout where
  leastPlain : Int
  greatestPlain : Int
  tieUp : Bool

def zeros (n : Nat) : String := String.ofList (List.replicate n '0')

/-- Digits with a decimal point and at least one digit on both sides of it. -/
def plainText (digits : String) (exponent : Int) : String :=
  if exponent ≥ 0 then digits ++ zeros exponent.toNat ++ ".0"
  else
    let places := (-exponent).toNat
    if digits.length > places then
      let cs := digits.toList
      String.ofList (cs.take (cs.length - places)) ++ "." ++ String.ofList (cs.drop (cs.length - places))
    else "0." ++ zeros (places - digits.length) ++ digits

/-- One digit, a point and the others if there are any, and a signed power of ten. -/
def scientificText (digits : String) (leading : Int) : String :=
  let mantissa := match digits.toList with
    | [] => ""
    | [c] => String.ofList [c]
    | c :: rest => String.ofList (c :: '.' :: rest)
  mantissa ++ (if leading < 0 then "e-" else "e+") ++ toString leading.natAbs

def Layout.write (layout : Layout) : Binary64 → String
  | .nan => "NaN"
  | .infinite negative => if negative then "-inf" else "inf"
  | .finite negative mantissa exponent =>
    let sign := if negative then "-" else ""
    let shown := shortest layout.tieUp mantissa exponent
    let digits := toString shown.digits
    let leading := shown.exponent + digits.length - 1
    sign ++ (if layout.leastPlain ≤ leading ∧ leading ≤ layout.greatestPlain then plainText digits shown.exponent
      else scientificText digits leading)

end Binary64

end Prologue
