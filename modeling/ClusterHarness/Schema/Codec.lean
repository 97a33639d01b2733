import ClusterHarness.Json.Reading
import ClusterHarness.Schema.Misfit
import ClusterHarness.Settings.Scalar

/-!
# Codecs

How values are written as JSON, decoded from JSON and taken from layered settings. JSON is decoded
strictly and in the order of its text; settings are converted leniently.
-/

namespace ClusterHarness.Schema

/-- Where JSON that is decoded comes from. -/
inductive Source where
  /-- A value that is at hand as a whole. -/
  | value
  /-- A text that is decoded while it is read, with room for so many nested containers. -/
  | text (room : Nat)
  deriving Repr, DecidableEq

/-- Why JSON is refused. -/
inductive Fault where
  /-- The text is not well formed. -/
  | malformed
  | misfit (misfit : Misfit)
  deriving Repr, DecidableEq

/-- The source inside one more container. -/
def Source.enter : Source → Except Fault Source
  | .value => .ok .value
  | .text 0 => .error .malformed
  | .text (room + 1) => .ok (.text room)

def wrongType (expected : String) : Json.Reading → Fault
  | .malformed | .hugeNumber | .brokenText => .malformed
  | .null => .misfit (.wrongType .null expected)
  | .bool b => .misfit (.wrongType (.bool b) expected)
  | .number (.integer n) => .misfit (.wrongType (.integer n) expected)
  | .number (.real v) => .misfit (.wrongType (.real v) expected)
  | .text s => .misfit (.wrongType (.text s) expected)
  | .array .. => .misfit (.wrongType .sequence expected)
  | .object .. => .misfit (.wrongType .map expected)

structure Codec (α : Type) where
  encode : α → Json
  decode : Source → Json.Reading → Except Fault α
  convert : Settings.Setting → Except Settings.Fault α

namespace Codec

/-- Takes a value from a setting that may be absent. -/
def convertGiven (codec : Codec α) : Settings.Setting → Except Settings.Fault (Option α)
  | .absent => .ok none
  | s => do return some (← codec.convert s)

def text : Codec String where
  encode := .text
  decode _
    | .text s => .ok s
    | other => .error (wrongType "a string" other)
  convert := Settings.Setting.toText

/-- Truth values. -/
def bool : Codec Bool where
  encode := .bool
  decode _
    | .bool b => .ok b
    | other => .error (wrongType "a boolean" other)
  convert := Settings.Setting.toBool

/-- An integer from `low` to `high`, which messages call `name`. -/
def decodeInteger (name : String) (low high : Int) : Json.Reading → Except Fault Int
  | .number (.integer n) =>
    if low ≤ n && n ≤ high then .ok n else .error (.misfit (.wrongValue (.integer n) name))
  | other => .error (wrongType name other)

/-- Unsigned integers of 64 bits. -/
def uint64 : Codec UInt64 where
  encode n := .nat n.toNat
  decode _ r := do return UInt64.ofNat (← decodeInteger "u64" 0 Text.maxU64 r).toNat
  convert s := do return UInt64.ofNat (← s.toUnsigned)

/-- An unsigned integer of at most `high`, of so many bits as `size` tells. -/
def narrow (high : Nat) (size : String) (s : Settings.Setting) : Except Settings.Fault Nat := do
  let n ← s.toUnsigned
  if n ≤ high then return n
  else .error (.wrongType (.unsigned n) ("an unsigned " ++ size ++ " bit integer") [] none)

/-- Unsigned integers of 32 bits. -/
def uint32 : Codec UInt32 where
  encode n := .nat n.toNat
  decode _ r := do return UInt32.ofNat (← decodeInteger "u32" 0 Text.maxU32 r).toNat
  convert s := do return UInt32.ofNat (← narrow Text.maxU32 "32" s)

/-- Unsigned integers of 16 bits. -/
def uint16 : Codec UInt16 where
  encode n := .nat n.toNat
  decode _ r := do return UInt16.ofNat (← decodeInteger "u16" 0 Text.maxU16 r).toNat
  convert s := do return UInt16.ofNat (← narrow Text.maxU16 "16" s)

/-- Signed integers of 32 bits. -/
def int32 : Codec Int32 where
  encode n := .int n.toInt
  decode _ r := do
    return Int32.ofInt (← decodeInteger "i32" Int32.minValue.toInt Int32.maxValue.toInt r)
  convert s := do
    let n ← s.toSigned
    if Int32.minValue.toInt ≤ n && n ≤ Int32.maxValue.toInt then return Int32.ofInt n
    else .error (.wrongType (.signed n) "an signed 32 bit integer" [] none)

/-- Values that are written as texts. A text that stands for no value is refused with a reason. -/
def spelled (write : α → String) (read : String → Except String α) : Codec α where
  encode a := .text (write a)
  decode src r := do
    match read (← text.decode src r) with
    | .ok a => return a
    | .error reason => .error (.misfit (.refused reason))
  convert s := do
    match read (← s.toText) with
    | .ok a => return a
    | .error reason => .error (.misfit (.refused reason))

/-- Decodes items one after the other. -/
def decodeItems (decode : Json.Reading → Except Fault α) :
    List Json.Reading → Except Fault (List α)
  | [] => .ok []
  | item :: rest => do return (← decode item) :: (← decodeItems decode rest)

/-- Converts items one after the other, the first of them at position `i`. -/
def convertItems (convert : Settings.Setting → Except Settings.Fault α) (i : Nat) :
    List Settings.Setting → Except Settings.Fault (List α)
  | [] => .ok []
  | item :: rest => do
    let a ← (convert item).mapError (.below (.index i))
    return a :: (← convertItems convert (i + 1) rest)

def list (item : Codec α) : Codec (List α) where
  encode as := .array (as.map item.encode)
  decode src
    | .array items closed => do
      let inner ← src.enter
      let as ← decodeItems (item.decode inner) items
      if closed then return as else .error .malformed
    | other => .error (wrongType "a sequence" other)
  convert
    | .list _ items => convertItems item.convert 0 items
    | other => .error (.misfit (.wrongType other.found "a sequence"))

/-- A set, as the list of its elements in order, without duplicates. -/
def sorted (item : Codec α) (arrange : List α → List α) : Codec (List α) where
  encode as := (list item).encode as
  decode src r := do return arrange (← (list item).decode src r)
  convert s := do return arrange (← (list item).convert s)

end Codec

end ClusterHarness.Schema
