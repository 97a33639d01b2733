import ClusterHarness.Settings.Fault
import ClusterHarness.Settings.Tree

/-!
# Lenient conversions

A setting of one type serves where another type is wanted as far as its text or value allows: words
for yes and no are truth values, truth values are numbers, numbers are texts.
-/

namespace ClusterHarness.Settings.Setting

/-- The truth value that a word in lower case stands for. -/
def wordTruth? (word : String) : Option Bool :=
  if word ∈ ["true", "on", "yes"] then some true
  else if word ∈ ["false", "off", "no"] then some false
  else none

/-- The setting where a truth value is wanted. -/
def toBool : Setting → Except Fault Bool
  | .scalar _ (.bool b) => .ok b
  | .scalar _ (.integer n) => .ok (n != 0)
  | .scalar _ (.real v) => .ok !v.isZero
  | .scalar origin (.text s) =>
    let word := Text.lower s
    if word = "1" then .ok true
    else if word = "0" then .ok false
    else match wordTruth? word with
      | some b => .ok b
      | none => .error (.wrongType (.text word) "a boolean" [] origin)
  | .absent => .error (.wrongType .nothing "a boolean" [] none)
  | .list origin _ => .error (.wrongType .sequence "a boolean" [] origin)
  | .table origin _ => .error (.wrongType .map "a boolean" [] origin)

/-- The setting where an unsigned integer of 64 bits is wanted. -/
def toUnsigned : Setting → Except Fault Nat
  | .scalar _ (.bool b) => .ok (if b then 1 else 0)
  | .scalar origin (.integer n) =>
    if 0 ≤ n then .ok n.toNat
    else .error (.wrongType (.signed n) "an unsigned 64 bit or less integer" [] origin)
  | .scalar _ (.real v) => .ok (v.clampRound 0 Text.maxU64).toNat
  | .scalar origin (.text s) =>
    match wordTruth? (Text.lower s) with
    | some b => .ok (if b then 1 else 0)
    | none =>
      match Text.readNat Text.maxU64 s.toList with
      | .ok n => .ok n
      | .error _ => .error (.wrongType (.text s) "an integer" [] origin)
  | .absent => .error (.wrongType .nothing "an integer" [] none)
  | .list origin _ => .error (.wrongType .sequence "an integer" [] origin)
  | .table origin _ => .error (.wrongType .map "an integer" [] origin)

/-- The setting where a signed integer of 64 bits is wanted. -/
def toSigned : Setting → Except Fault Int
  | .scalar _ (.bool b) => .ok (if b then 1 else 0)
  | .scalar _ (.integer n) => .ok n
  | .scalar _ (.real v) => .ok (v.clampRound Text.leastI64 Text.maxI64)
  | .scalar origin (.text s) =>
    match wordTruth? (Text.lower s) with
    | some b => .ok (if b then 1 else 0)
    | none =>
      match Text.readInt Text.leastI64 Text.maxI64 s.toList with
      | .ok n => .ok n
      | .error _ => .error (.wrongType (.text s) "an integer" [] origin)
  | .absent => .error (.wrongType .nothing "an integer" [] none)
  | .list origin _ => .error (.wrongType .sequence "an integer" [] origin)
  | .table origin _ => .error (.wrongType .map "an integer" [] origin)

def toText : Setting → Except Fault String
  | .scalar _ (.bool b) => .ok (Text.boolText b)
  | .scalar _ (.integer n) => .ok (Text.intText n)
  | .scalar _ (.real v) => .ok (v.plainText false)
  | .scalar _ (.text s) => .ok s
  | .absent => .error (.wrongType .nothing "a string" [] none)
  | .list origin _ => .error (.wrongType .sequence "a string" [] origin)
  | .table origin _ => .error (.wrongType .map "a string" [] origin)

/-- What the setting is, for a message about a value that does not fit. -/
def found : Setting → Schema.Found
  | .absent => .nothing
  | .scalar _ (.bool b) => .bool b
  | .scalar _ (.integer n) => .integer n
  | .scalar _ (.real v) => .real v
  | .scalar _ (.text s) => .text s
  | .list .. => .sequence
  | .table .. => .map

end ClusterHarness.Settings.Setting
