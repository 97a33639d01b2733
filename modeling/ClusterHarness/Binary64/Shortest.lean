import ClusterHarness.Binary64.Basic
import ClusterHarness.Text.Numeral

/-!
# Shortest decimals

The decimal with the fewest digits that reads back as a given floating point number, and the ways to
lay its digits out. For each count of digits the two neighbours of the number on that decimal grid
are tried; the first grid with one that reads back wins, of two the nearer.
-/

namespace ClusterHarness.Binary64

/-- A decimal `digits * 10 ^ exponent`. -/
structure Decimal where
  digits : Nat
  exponent : Int
  deriving Repr, DecidableEq

/-- How many decimal digits a number has, at most `fuel`. -/
def digitCount : (fuel : Nat) → Nat → Nat
  | 0, _ => 0
  | fuel + 1, n => if n < 10 then 1 else digitCount fuel (n / 10) + 1

/-- The power of ten of the leading digit of `mantissa * 2 ^ exponent`. -/
def leadingPower (mantissa : Nat) (exponent : Int) : Int :=
  let (n, d) := ratio mantissa exponent
  (digitCount 1000 (n * Nat.pow 10 330 / d) : Int) - 331

/-- `count * 10 ^ power` and `quarters * 2 ^ (exponent - 2)` on one scale. -/
def onOneScale (count : Nat) (power : Int) (quarters : Nat) (exponent : Int) : Nat × Nat :=
  let shift := exponent - 2
  ((count * Nat.pow 10 power.toNat) <<< (-shift).toNat,
    (quarters * Nat.pow 10 (-power).toNat) <<< shift.toNat)

/-- Whether `count * 10 ^ power` reads back as `mantissa * 2 ^ exponent`: it lies no further off than
half the gap to the next number, the half itself only where ties go to this mantissa. -/
def readsBack (count : Nat) (power : Int) (mantissa : Nat) (exponent : Int) : Bool :=
  let below := if mantissa = 1 <<< 52 && minExponent < exponent then 1 else 2
  let (x, low) := onOneScale count power (4 * mantissa - below) exponent
  let (_, high) := onOneScale count power (4 * mantissa + 2) exponent
  if mantissa % 2 = 0 then low ≤ x && x ≤ high else low < x && x < high

/-- How far `count * 10 ^ power` is from `mantissa * 2 ^ exponent`, on their common scale. -/
def distance (count : Nat) (power : Int) (mantissa : Nat) (exponent : Int) : Nat :=
  let (x, v) := onOneScale count power (4 * mantissa) exponent
  max (x - v) (v - x)

/-- The decimal on the grid of `10 ^ power` that reads back, if one of the two neighbours does. -/
def onGrid? (power : Int) (mantissa : Nat) (exponent : Int) : Option Decimal :=
  let (n, d) := ratio mantissa exponent
  let lower :=
    if 0 ≤ power then n / (d * Nat.pow 10 power.toNat)
    else n * Nat.pow 10 (-power).toNat / d
  let fits := fun count => readsBack count power mantissa exponent
  if fits lower then
    if fits (lower + 1)
        && distance (lower + 1) power mantissa exponent < distance lower power mantissa exponent
    then some ⟨lower + 1, power⟩ else some ⟨lower, power⟩
  else if fits (lower + 1) then some ⟨lower + 1, power⟩
  else none

/-- Drops the zeros at the end of the digits, at most `fuel` of them. -/
def Decimal.strip : (fuel : Nat) → Decimal → Decimal
  | 0, d => d
  | fuel + 1, d =>
    if d.digits % 10 = 0 && d.digits != 0 then strip fuel ⟨d.digits / 10, d.exponent + 1⟩ else d

/-- The shortest decimal of a finite number other than zero. Seventeen digits always read back. -/
def shortest (mantissa : Nat) (exponent : Int) : Decimal :=
  let top := leadingPower mantissa exponent
  let tries := (List.range 17).map fun (n : Nat) => top - n
  ((tries.findSome? fun power => onGrid? power mantissa exponent).getD ⟨0, 0⟩).strip 20

/-- Digits with the decimal point where it belongs and no exponent. With `point`, a whole number gets
a decimal place of its own. -/
def Decimal.positional (point : Bool) (d : Decimal) : List Char :=
  let digits := Text.decimal d.digits
  let place : Int := digits.length + d.exponent
  if 0 ≤ d.exponent then
    digits ++ List.replicate d.exponent.toNat '0' ++ (if point then ['.', '0'] else [])
  else if 0 < place then
    digits.take place.toNat ++ '.' :: digits.drop place.toNat
  else
    ['0', '.'] ++ List.replicate (-place).toNat '0' ++ digits

/-- Digits with the point after the first one and an exponent, which always has a sign. -/
def Decimal.scientific (d : Decimal) : List Char :=
  let digits := Text.decimal d.digits
  let power : Int := digits.length + d.exponent - 1
  digits.take 1 ++ (if digits.length = 1 then [] else '.' :: digits.drop 1)
    ++ 'e' :: (if power < 0 then '-' else '+') :: Text.decimal power.natAbs

def signed (negative : Bool) (digits : List Char) : String :=
  String.ofList (if negative then '-' :: digits else digits)

/-- The number without an exponent. With `point`, whole numbers end in `.0`. -/
def plainText (point : Bool) : Binary64 → String
  | .nan => "NaN"
  | .infinite negative => if negative then "-inf" else "inf"
  | .finite negative mantissa exponent =>
    if mantissa = 0 then signed negative (if point then ['0', '.', '0'] else ['0'])
    else signed negative ((shortest mantissa exponent).positional point)

/-- The number with an exponent where it is very large or very small: at `1e16` and above, and below
`1e-5`. -/
def compactText : Binary64 → String
  | .finite negative mantissa exponent =>
    if mantissa = 0 then signed negative ['0', '.', '0']
    else
      let d := shortest mantissa exponent
      let place : Int := (Text.decimal d.digits).length + d.exponent
      if -5 < place && place ≤ 16 then signed negative (d.positional true)
      else signed negative d.scientific
  | special => plainText true special

end ClusterHarness.Binary64
