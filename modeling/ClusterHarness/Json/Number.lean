import ClusterHarness.Binary64.Shortest
import ClusterHarness.Text.Numeral

/-!
# JSON numbers

A number without fraction and exponent that fits 64 bits, signed or unsigned, is held exactly. Every
other one is a floating point number, made from at most nineteen or twenty leading digits.
-/

namespace ClusterHarness.Json

/-- A number as a JSON text gives it. -/
inductive Number where
  /-- From `-2 ^ 63` to `2 ^ 64 - 1`. -/
  | integer (value : Int)
  | real (value : Binary64)
  deriving Repr, DecidableEq

/-- The digits and the power of ten that a number is made from. -/
structure Significand where
  value : Nat
  exponent : Int
  deriving Repr, DecidableEq

namespace Significand

/-- Reads digits before the point as long as the value fits 64 bits. Each digit after that only
raises the power of ten. -/
def readWhole (value : Nat) : List Char → Significand
  | [] => ⟨value, 0⟩
  | c :: rest =>
    let next := value * 10 + (c.toNat - 48)
    if Text.maxU64 < next then ⟨value, rest.length + 1⟩ else readWhole next rest

/-- Reads digits behind the point as long as the value fits 64 bits. The others are left out. -/
def readFraction (s : Significand) : List Char → Significand
  | [] => s
  | c :: rest =>
    let next := s.value * 10 + (c.toNat - 48)
    if Text.maxU64 < next then s else readFraction ⟨next, s.exponent - 1⟩ rest

/-- The product of a finite number with `10 ^ power`, or its quotient by it, rounded once. -/
def timesPower (divide : Bool) (power : Nat) : Binary64 → Binary64
  | .finite negative mantissa exponent =>
    match Binary64.nearest false (Nat.pow 10 power) 1 with
    | .finite _ m e =>
      let (n, d) := Binary64.ratio mantissa exponent
      let (pn, pd) := Binary64.ratio m e
      if divide then Binary64.nearest negative (n * pd) (d * pn)
      else Binary64.nearest negative (n * pn) (d * pd)
    | special => special
  | special => special

/-- Divides by `10 ^ 308` while the power of ten is below `-308`. Two divisions bring every
significand of 64 bits to zero. -/
def scaleDown : (fuel : Nat) → Binary64 → Int → Binary64 × Int
  | 0, value, exponent => (value, exponent)
  | fuel + 1, value, exponent =>
    if exponent < -308 && !value.isZero then
      scaleDown fuel (timesPower true 308 value) (exponent + 308)
    else (value, exponent)

/-- The floating point number of a significand, or nothing when it is too large for one. The
significand is rounded first, and again after the power of ten is applied. -/
def toReal? (negative : Bool) (s : Significand) : Option Binary64 :=
  let whole := Binary64.nearest negative s.value 1
  if whole.isZero then some whole
  else if 308 < s.exponent then none
  else
    let (value, exponent) := scaleDown 3 whole s.exponent
    let value :=
      if value.isZero then value
      else timesPower (decide (exponent < 0)) exponent.natAbs value
    if value.isFinite then some value else none

end Significand

/-- The number with the given digits before the point, behind it, and in the exponent. Nothing when
it lies beyond the floating point range. -/
def Number.ofDigits? (negative : Bool) (whole : List Char) (fraction : List Char)
    (exponent : Option Int) : Option Number :=
  let s := Significand.readWhole 0 whole
  if fraction.isEmpty && exponent.isNone && s.exponent = 0
      && (!negative || (0 < s.value && s.value ≤ Text.leastI64)) then
    some (.integer (if negative then -(s.value : Int) else s.value))
  else
    let s := s.readFraction fraction
    (Significand.toReal? negative ⟨s.value, s.exponent + exponent.getD 0⟩).map .real

def Number.text : Number → String
  | .integer n => Text.intText n
  | .real v => v.compactText

end ClusterHarness.Json
