/-!
# Numerals

Decimal numerals of natural numbers and integers: how they are written, and which texts are read.
A numeral that is read may have leading zeros and a leading plus sign; it must fit its bounds.
-/

namespace ClusterHarness.Text

/-- The decimal digit of a number below ten. -/
def digitChar (n : Nat) : Char := Char.ofNat (48 + n)

/-- The decimal digits of a number, without leading zeros. -/
def decimal (n : Nat) : List Char :=
  if n < 10 then [digitChar n] else decimal (n / 10) ++ [digitChar (n % 10)]

/-- A natural number as text. -/
def natText (n : Nat) : String := String.ofList (decimal n)

def intText : Int → String
  | .ofNat n => natText n
  | .negSucc n => "-" ++ natText (n + 1)

/-- A truth value as text. -/
def boolText (b : Bool) : String := if b then "true" else "false"

def digitValue? (c : Char) : Option Nat :=
  if 48 ≤ c.toNat && c.toNat ≤ 57 then some (c.toNat - 48) else none

/-- An ASCII decimal digit. -/
def isDigit (c : Char) : Bool := (digitValue? c).isSome

/-- Why a text is no numeral within its bounds. -/
inductive NumeralFault where
  /-- There is nothing to read. -/
  | empty
  /-- A character is no digit, or a sign stands alone. -/
  | badDigit
  /-- The value is above the bound. -/
  | tooLarge
  /-- The value is below the bound. -/
  | tooSmall
  deriving Repr, DecidableEq

def NumeralFault.message : NumeralFault → String
  | .empty => "cannot parse integer from empty string"
  | .badDigit => "invalid digit found in string"
  | .tooLarge => "number too large to fit in target type"
  | .tooSmall => "number too small to fit in target type"

/-- Reads digits on top of `value`. The first character at fault decides: one that is no digit, or
one that takes the value above `bound`. -/
def readDigits (bound : Nat) (excess : NumeralFault) (value : Nat) :
    List Char → Except NumeralFault Nat
  | [] => .ok value
  | c :: rest =>
    match digitValue? c with
    | none => .error .badDigit
    | some d =>
      if bound < value * 10 + d then .error excess
      else readDigits bound excess (value * 10 + d) rest

/-- Reads an unsigned numeral of at most `bound`. -/
def readNat (bound : Nat) : List Char → Except NumeralFault Nat
  | [] => .error .empty
  | ['+'] => .error .badDigit
  | '+' :: digits => readDigits bound .tooLarge 0 digits
  | digits => readDigits bound .tooLarge 0 digits

/-- Reads a signed numeral from `-low` to `high`. -/
def readInt (low high : Nat) : List Char → Except NumeralFault Int
  | ['-'] => .error .badDigit
  | '-' :: digits => (readDigits low .tooSmall 0 digits).map fun n => -(n : Int)
  | s => (readNat high s).map fun n => (n : Int)

/-- The largest unsigned integer of 64 bits. -/
def maxU64 : Nat := UInt64.size - 1

/-- The largest unsigned integer of 32 bits. -/
def maxU32 : Nat := UInt32.size - 1

/-- The largest unsigned integer of 16 bits. -/
def maxU16 : Nat := UInt16.size - 1

/-- The largest signed integer of 64 bits. -/
def maxI64 : Nat := UInt64.size / 2 - 1

/-- The size of the least signed integer of 64 bits. -/
def leastI64 : Nat := UInt64.size / 2

end ClusterHarness.Text
