import ClusterHarness.Schema.Codec

/-!
# Records

A record is described once, by a table of its fields in declaration order: how each is written, where
it is left out, and how it is set from JSON or from settings. Encoding, decoding and conversion of
the whole record follow from the table.
-/

namespace ClusterHarness.Schema

structure Field (ρ : Type) where
  name : String
  /-- The value of the field, unless it is left out. -/
  encode : ρ → Option Json
  /-- Sets the field from JSON. -/
  decode : Source → Json.Reading → ρ → Except Fault ρ
  /-- Sets the field from a setting. -/
  convert : Settings.Setting → ρ → Except Settings.Fault ρ

namespace Field

/-- A field that is always written. -/
def plain (name : String) (codec : Codec α) (get : ρ → α) (set : α → ρ → ρ) : Field ρ where
  name := name
  encode r := some (codec.encode (get r))
  decode src json r := do return set (← codec.decode src json) r
  convert s r := do return set (← codec.convert s) r

/-- A field that is written when it is set. Null, or an absent setting, leaves it unset. -/
def optional (name : String) (codec : Codec α) (get : ρ → Option α) (set : Option α → ρ → ρ) :
    Field ρ where
  name := name
  encode r := (get r).map codec.encode
  decode src json r :=
    match json with
    | .null => .ok (set none r)
    | json => do return set (some (← codec.decode src json)) r
  convert s r := do return set (← codec.convertGiven s) r

/-- A list that is written unless it is empty. -/
def listed (name : String) (codec : Codec (List α)) (get : ρ → List α) (set : List α → ρ → ρ) :
    Field ρ where
  name := name
  encode r := if (get r).isEmpty then none else some (codec.encode (get r))
  decode src json r := do return set (← codec.decode src json) r
  convert s r := do return set (← codec.convert s) r

/-- A field that has to be given. `get` has no value before it is. -/
def needed (name : String) (codec : Codec α) (get : ρ → Option α) (set : α → ρ → ρ) : Field ρ where
  name := name
  encode r := (get r).map codec.encode
  decode src json r := do return set (← codec.decode src json) r
  convert s r := do return set (← codec.convert s) r

/-- A field that is always written, as null when it is unset. -/
def nullable (name : String) (codec : Codec α) (get : ρ → Option α) (set : Option α → ρ → ρ) :
    Field ρ where
  name := name
  encode r := some (((get r).map codec.encode).getD .null)
  decode src json r :=
    match json with
    | .null => .ok (set none r)
    | json => do return set (some (← codec.decode src json)) r
  convert s r := do return set (← codec.convertGiven s) r

end Field

structure Record (ρ : Type) where
  /-- What messages call it. -/
  name : String
  /-- The record before any field is set. -/
  start : ρ
  fields : List (Field ρ)
  /-- Whether a sequence has to give every field. -/
  whole : Bool

namespace Record

def members (record : Record ρ) (r : ρ) : List (String × Json) :=
  record.fields.filterMap fun field => (field.encode r).map fun value => (field.name, value)

def encode (record : Record ρ) (r : ρ) : Json := .object (record.members r)

/-- Sets fields from members, in the order of the members. `seen` holds the names that were met. -/
def decodeMembers (record : Record ρ) (src : Source) (seen : List String) (r : ρ) :
    List (Option String × Json.Reading) → Except Fault ρ
  | [] => .ok r
  | (none, _) :: _ => .error .malformed
  | (some name, json) :: rest =>
    match record.fields.find? fun field => field.name == name with
    | none =>
      if json.wellFormed then decodeMembers record src seen r rest else .error .malformed
    | some field =>
      if name ∈ seen then .error (.misfit (.duplicateField name))
      else do decodeMembers record src (name :: seen) (← field.decode src json r) rest

/-- Sets the fields from items, in declaration order. -/
def decodeItems (src : Source) (r : ρ) :
    List (Field ρ) → List Json.Reading → Except Fault (ρ × List (Field ρ) × List Json.Reading)
  | field :: fields, item :: items => do decodeItems src (← field.decode src item r) fields items
  | fields, items => .ok (r, fields, items)

/-- What messages expect of a sequence that is too short. -/
def arity (record : Record ρ) : String :=
  record.name ++ " with " ++ Text.natText record.fields.length ++ " elements"

/-- Decodes the record from an object, or from a sequence of its fields. -/
def decode (record : Record ρ) (src : Source) : Json.Reading → Except Fault ρ
  | .object members closed => do
    let inner ← src.enter
    let r ← record.decodeMembers inner [] record.start members
    if closed then return r else .error .malformed
  | .array items closed => do
    let inner ← src.enter
    let (r, fields, more) ← decodeItems inner record.start record.fields items
    if !more.isEmpty then
      match src with
      | .value => .error (.misfit (.wrongLength items.length "fewer elements in array"))
      | .text _ => .error .malformed
    else if !closed then .error .malformed
    else if record.whole && !fields.isEmpty then
      .error (.misfit (.wrongLength items.length record.arity))
    else return r
  | other => .error (wrongType record.name other)

/-- Sets fields from the entries of a table. -/
def convertEntries (record : Record ρ) (r : ρ) :
    List (String × Settings.Setting) → Except Settings.Fault ρ
  | [] => .ok r
  | (name, setting) :: rest =>
    match record.fields.find? fun field => field.name == name with
    | none => convertEntries record r rest
    | some field => do
      convertEntries record (← (field.convert setting r).mapError (.below (.key name))) rest

/-- Sets fields from the items of a list, the first of them at position `i`. Items beyond the fields
are left alone. -/
def convertItems (i : Nat) (r : ρ) :
    List (Field ρ) → List Settings.Setting → Except Settings.Fault ρ
  | field :: fields, item :: items => do
    convertItems (i + 1) (← (field.convert item r).mapError (.below (.index i))) fields items
  | _, _ => .ok r

def convert (record : Record ρ) : Settings.Setting → Except Settings.Fault ρ
  | .table _ entries => record.convertEntries record.start entries
  | .list _ items => convertItems 0 record.start record.fields items
  | other => .error (.misfit (.wrongType other.found record.name))

def codec (record : Record ρ) : Codec ρ where
  encode := record.encode
  decode := record.decode
  convert := record.convert

/-- The codec of values that are put together from the parts that a record describes. -/
def partsCodec (record : Record π) (parts : α → π) (build : π → Except Misfit α) : Codec α where
  encode a := record.encode (parts a)
  decode src r := do (build (← record.decode src r)).mapError .misfit
  convert s := do (build (← record.convert s)).mapError .misfit

end Record

/-- The value of a field that has to be given. -/
def given (name : String) : Option α → Except Misfit α
  | some a => .ok a
  | none => .error (.missingField name)

/-- Decodes a text that holds one value and nothing else. -/
def decodeText (decode : Source → Json.Reading → Except Fault α) (s : String) :
    Except Fault α := do
  let (reading, ended) := Json.read s
  let a ← decode (.text Json.maxNesting) reading
  if ended then return a else .error .malformed

/-- Decodes a text that holds one value and nothing else. -/
def Codec.ofText (codec : Codec α) (s : String) : Except Fault α := decodeText codec.decode s

def Codec.ofJson (codec : Codec α) (v : Json) : Except Fault α := codec.decode .value v.reading

end ClusterHarness.Schema
