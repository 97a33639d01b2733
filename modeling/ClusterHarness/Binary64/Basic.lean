/-!
# Binary floating point numbers of 64 bits

A number is held as its sign, a whole mantissa and a power of two, so that all that is done with it
here is exact arithmetic on natural numbers: rounding a quotient to the nearest number, and back to
a whole number.
-/

namespace ClusterHarness

/-- A floating point number of 64 bits. A finite one stands for `mantissa * 2 ^ exponent`, with the
mantissa below `2 ^ 53`. -/
inductive Binary64 where
  | nan
  | infinite (negative : Bool)
  | finite (negative : Bool) (mantissa : Nat) (exponent : Int)
  deriving Repr, DecidableEq

namespace Binary64

/-- The least exponent, which the numbers next to zero have. -/
def minExponent : Int := -1074

/-- The largest exponent of a finite number. -/
def maxExponent : Int := 971

/-- Zero, with its sign. -/
def zero (negative : Bool) : Binary64 := .finite negative 0 minExponent

/-- A quotient rounded to a whole number, a half going to the even neighbour. -/
def roundQuotient (num den : Nat) : Nat :=
  let q := num / den
  let r := num % den
  if den < 2 * r || (2 * r == den && q % 2 == 1) then q + 1 else q

/-- Numerator and denominator of `num / den / 2 ^ exponent`. -/
def scale (num den : Nat) (exponent : Int) : Nat × Nat :=
  if 0 ≤ exponent then (num, den <<< exponent.toNat) else (num <<< (-exponent).toNat, den)

/-- The power of two at which `num / den` has a mantissa of 53 bits, as far as exponents reach. -/
def exponentOf (num den : Nat) : Int :=
  let guess : Int := (Nat.log2 num : Int) - (Nat.log2 den : Int) - 52
  let (n, d) := scale num den guess
  max minExponent (if n / d < 1 <<< 52 then guess - 1 else guess)

/-- The number nearest to `num / den`, a half going to the even mantissa. -/
def nearest (negative : Bool) (num den : Nat) : Binary64 :=
  if num = 0 then zero negative
  else
    let exponent := exponentOf num den
    let (n, d) := scale num den exponent
    let mantissa := roundQuotient n d
    let (mantissa, exponent) :=
      if mantissa = 1 <<< 53 then (1 <<< 52, exponent + 1) else (mantissa, exponent)
    if maxExponent < exponent then .infinite negative else .finite negative mantissa exponent

/-- The number nearest to `digits * 10 ^ exponent`. Exponents far beyond the range need no
arithmetic: `digits` has `count` digits. -/
def ofDecimal (negative : Bool) (digits count : Nat) (exponent : Int) : Binary64 :=
  if digits = 0 then zero negative
  else if 400 < exponent then .infinite negative
  else if exponent + count < -400 then zero negative
  else if 0 ≤ exponent then nearest negative (digits * Nat.pow 10 exponent.toNat) 1
  else nearest negative digits (Nat.pow 10 (-exponent).toNat)

/-- The size of a finite number as a quotient of naturals. -/
def ratio (mantissa : Nat) (exponent : Int) : Nat × Nat :=
  if 0 ≤ exponent then (mantissa <<< exponent.toNat, 1) else (mantissa, 1 <<< (-exponent).toNat)

/-- Not a NaN and not infinite. -/
def isFinite : Binary64 → Bool
  | .finite .. => true
  | _ => false

def isZero : Binary64 → Bool
  | .finite _ mantissa _ => mantissa == 0
  | _ => false

/-- The size of the number rounded to a whole number, a half going away from zero. -/
def roundSize (mantissa : Nat) (exponent : Int) : Nat :=
  let (n, d) := ratio mantissa exponent
  (2 * n + d) / (2 * d)

/-- The nearest whole number from `-low` to `high`, a half going away from zero. What lies beyond a
bound becomes the bound, and a NaN becomes zero. -/
def clampRound (low high : Nat) : Binary64 → Int
  | .nan => 0
  | .infinite negative => if negative then -(low : Int) else high
  | .finite negative mantissa exponent =>
    let size := roundSize mantissa exponent
    if negative then -(min size low : Nat) else (min size high : Nat)

end Binary64

end ClusterHarness
