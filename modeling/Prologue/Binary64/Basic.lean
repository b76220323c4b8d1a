import Prologue.Power

/-! Double-precision numbers as data. A finite number is `mantissa * 2 ^ exponent` in its normal form, and
every operation rounds an exact quotient to the nearest number, a tie going to the even mantissa. -/

namespace Prologue

/-- A double. Finite numbers are kept with `mantissa < 2 ^ 53` and `-1074 ≤ exponent`, the mantissa at least
`2 ^ 52` unless the exponent is the least one. -/
inductive Binary64 where
  | nan
  | infinite (negative : Bool)
  | finite (negative : Bool) (mantissa : Nat) (exponent : Int)
deriving DecidableEq, Repr

namespace Binary64

def leastExponent : Int := -1074

def greatestExponent : Int := 971

def zero (negative : Bool) : Binary64 := .finite negative 0 leastExponent

/-- The quotient `numerator / denominator` to the nearest natural number, a half going to the even one. -/
def divideToEven (numerator denominator : Nat) : Nat :=
  let quotient := numerator / denominator
  let twice := 2 * (numerator % denominator)
  if twice > denominator || (twice == denominator && quotient % 2 == 1) then quotient + 1 else quotient

/-- `numerator / denominator` in units of `2 ^ exponent`, as a quotient of natural numbers. -/
def scale (numerator denominator : Nat) (exponent : Int) : Nat × Nat :=
  if exponent ≥ 0 then (numerator, denominator * powerOfTwo exponent.toNat)
  else (numerator * powerOfTwo (-exponent).toNat, denominator)

/-- The exponent at which `numerator / denominator` has a mantissa of 53 bits, or the least exponent. -/
def fittingExponent (numerator denominator : Nat) : Int :=
  let low : Int := (Nat.log2 numerator : Int) - (Nat.log2 denominator : Int) - 53
  let scaled := scale numerator denominator low
  let exact := if scaled.1 / scaled.2 < powerOfTwo 53 then low else low + 1
  max exact leastExponent

/-- The double nearest to `numerator / denominator`. -/
def ofQuotient (negative : Bool) (numerator denominator : Nat) : Binary64 :=
  if numerator == 0 then zero negative
  else
    let exponent := fittingExponent numerator denominator
    let scaled := scale numerator denominator exponent
    let mantissa := divideToEven scaled.1 scaled.2
    let carried := mantissa == powerOfTwo 53
    let mantissa := if carried then powerOfTwo 52 else mantissa
    let exponent := if carried then exponent + 1 else exponent
    if exponent > greatestExponent then .infinite negative else .finite negative mantissa exponent

def ofNat (n : Nat) : Binary64 := ofQuotient false n 1

def ofInt (i : Int) : Binary64 := ofQuotient (i < 0) i.natAbs 1

/-- The double nearest to `digits * 10 ^ exponent`. Powers far outside the range are not computed: a decimal
with its point more than 310 places to the left or 330 to the right is infinite or zero. -/
def ofDecimal (negative : Bool) (digits : Nat) (exponent : Int) : Binary64 :=
  if digits == 0 then zero negative
  else
    let place : Int := (Nat.toDigits 10 digits).length + exponent
    if place > 310 then .infinite negative
    else if place < -330 then zero negative
    else if exponent ≥ 0 then ofQuotient negative (digits * powerOfTen exponent.toNat) 1
    else ofQuotient negative digits (powerOfTen (-exponent).toNat)

def isFinite : Binary64 → Bool
  | .finite .. => true
  | _ => false

def isZero : Binary64 → Bool
  | .finite _ mantissa _ => mantissa == 0
  | _ => false

def negate : Binary64 → Binary64
  | .nan => .nan
  | .infinite negative => .infinite (!negative)
  | .finite negative mantissa exponent => .finite (!negative) mantissa exponent

/-- The product of two finite doubles; other operands give no number. -/
def times : Binary64 → Binary64 → Binary64
  | .finite s m e, .finite t n f =>
      let scaled := if e + f ≥ 0 then (m * n * powerOfTwo (e + f).toNat, 1) else (m * n, powerOfTwo (-(e + f)).toNat)
      ofQuotient (s != t) scaled.1 scaled.2
  | _, _ => .nan

/-- The quotient of two finite doubles, the second not zero; other operands give no number. -/
def quotient : Binary64 → Binary64 → Binary64
  | .finite s m e, .finite t n f =>
      if n == 0 then .nan
      else
        let scaled := if e - f ≥ 0 then (m * powerOfTwo (e - f).toNat, n) else (m, n * powerOfTwo (f - e).toNat)
        ofQuotient (s != t) scaled.1 scaled.2
  | _, _ => .nan

/-- The interchange form: sign, eleven exponent bits, fifty-two fraction bits. -/
def bits : Binary64 → Nat
  | .nan => 0x7ff8000000000000
  | .infinite negative => (if negative then powerOfTwo 63 else 0) + 0x7ff0000000000000
  | .finite negative mantissa exponent =>
      let sign := if negative then powerOfTwo 63 else 0
      if mantissa < powerOfTwo 52 then sign + mantissa
      else sign + (exponent - leastExponent + 1).toNat * powerOfTwo 52 + (mantissa - powerOfTwo 52)

end Binary64

end Prologue
