import ClusterHarness.Schema.Codec

/-!
# Enumerations

Values that are one of several named variants. In JSON a variant is its name, or an object with its
name as the only member and its content as the value. In settings names are compared without case.
-/

namespace ClusterHarness.Schema

/-- A variant as JSON names it. -/
structure Tagged where
  name : String
  /-- What stands beside the name, if anything does. -/
  content : Option Json.Reading
  inner : Source
  /-- Whether the value ends behind the content. -/
  complete : Bool

def knownName (known : List String) (name : String) : Except Fault String :=
  if name ∈ known then .ok name else .error (.misfit (.unknownVariant name known))

/-- The variant that a value names. -/
def tagged (known : List String) (src : Source) : Json.Reading → Except Fault Tagged
  | .text s => do return ⟨← knownName known s, none, src, true⟩
  | .object members closed => do
    let inner ← src.enter
    match src, members with
    | .value, [(some name, content)] => return ⟨← knownName known name, some content, inner, true⟩
    | .value, _ => .error (.misfit (.wrongValue .map "map with a single key"))
    | .text _, (some name, content) :: more =>
      return ⟨← knownName known name, some content, inner, closed && more.isEmpty⟩
    | .text _, _ => .error .malformed
  | other =>
    match src with
    | .value => .error (wrongType "string or map" other)
    | .text _ => .error .malformed

/-- Checks that a value ended behind its content. -/
def Tagged.finish (t : Tagged) (a : α) : Except Fault α :=
  if t.complete then .ok a else .error .malformed

/-- Checks that nothing but null stands beside a name. -/
def Tagged.unit (t : Tagged) : Except Fault Unit :=
  match t.content with
  | none | some .null => .ok ()
  | some r => .error (wrongType "unit" r)

/-- The name of a variant, on its own. -/
def identifier (known : List String) : Json.Reading → Except Fault String
  | .text s => knownName known s
  | other => .error (wrongType "variant identifier" other)

/-- An enumeration of bare names. -/
structure Enumeration (α : Type) where
  /-- What messages call it. -/
  name : String
  /-- Its values, in the order in which messages offer them. -/
  values : List α
  label : α → String

namespace Enumeration

/-- The names of all variants. -/
def labels (e : Enumeration α) : List String := e.values.map e.label

def ofLabel? (e : Enumeration α) (name : String) : Option α :=
  e.values.find? fun a => e.label a == name

/-- The value with a name, or the fault of a name that is not known. -/
def ofLabel (e : Enumeration α) (name : String) : Except Fault α :=
  match e.ofLabel? name with
  | some a => .ok a
  | none => .error (.misfit (.unknownVariant name e.labels))

def ofAnyCase (e : Enumeration α) (name : String) : Except Settings.Fault α :=
  match e.values.find? fun a => Text.lower (e.label a) == Text.lower name with
  | some a => .ok a
  | none => .error (.noVariant e.name name)

def decode (e : Enumeration α) (src : Source) (r : Json.Reading) : Except Fault α := do
  let t ← tagged e.labels src r
  let a ← e.ofLabel t.name
  t.unit
  t.finish a

/-- Takes a variant from a setting. A table names one by its only key. -/
def convert (e : Enumeration α) : Settings.Setting → Except Settings.Fault α
  | .scalar _ (.text s) => e.ofAnyCase s
  | .table _ [(name, _)] => e.ofAnyCase name
  | _ => .error (.notAVariant e.name)

def codec (e : Enumeration α) : Codec α where
  encode a := .text (e.label a)
  decode := e.decode
  convert := e.convert

end Enumeration

/-- An enumeration whose variants are objects that name them in a member called `type`, beside
members that are ignored. -/
structure TaggedEnumeration (α : Type) where
  name : String
  values : List α
  label : α → String

namespace TaggedEnumeration

/-- The names of its variants, as an enumeration of bare names. -/
def bare (e : TaggedEnumeration α) : Enumeration α := ⟨e.name, e.values, e.label⟩

def expected (e : TaggedEnumeration α) : String := "internally tagged enum " ++ e.name

/-- Checks that a value beside the tag can be read. -/
def readable (src : Source) (r : Json.Reading) : Except Fault Unit :=
  match src with
  | .value => .ok ()
  | .text room => if (r.json? room).isSome then .ok () else .error .malformed

def decodeMembers (e : TaggedEnumeration α) (src : Source) (tag : Option α) :
    List (Option String × Json.Reading) → Except Fault (Option α)
  | [] => .ok tag
  | (none, _) :: _ => .error .malformed
  | (some name, r) :: rest =>
    if name = "type" then
      if tag.isSome then .error (.misfit (.duplicateField "type"))
      else do
        let label ← identifier e.bare.labels r
        decodeMembers e src (some (← e.bare.ofLabel label)) rest
    else do
      readable src r
      decodeMembers e src tag rest

def readableItems (src : Source) : List Json.Reading → Except Fault Unit
  | [] => .ok ()
  | r :: rest => do
    readable src r
    readableItems src rest

/-- Decodes a variant from JSON. In a sequence the tag is the only item. -/
def decode (e : TaggedEnumeration α) (src : Source) : Json.Reading → Except Fault α
  | .object members closed => do
    let inner ← src.enter
    let tag ← decodeMembers e inner none members
    if !closed then .error .malformed
    else match tag with
      | some a => return a
      | none => .error (.misfit (.missingField "type"))
  | .array items closed => do
    let inner ← src.enter
    match items with
    | [] => .error (if closed then .misfit (.missingField "type") else .malformed)
    | r :: rest =>
      let a ← e.bare.ofLabel (← identifier e.bare.labels r)
      readableItems inner rest
      if !closed then .error .malformed
      else if rest.isEmpty then return a
      else .error (.misfit (.wrongLength rest.length "0 elements in sequence"))
  | other => .error (wrongType e.expected other)

/-- The variant that a setting names. -/
def convertTag (e : TaggedEnumeration α) : Settings.Setting → Except Settings.Fault α
  | .scalar _ (.text s) =>
    match e.bare.ofLabel? s with
    | some a => .ok a
    | none => .error (.misfit (.unknownVariant s e.bare.labels))
  | other => .error (.misfit (.wrongType other.found "variant identifier"))

/-- Takes a variant from a setting. -/
def convert (e : TaggedEnumeration α) : Settings.Setting → Except Settings.Fault α
  | .table _ entries =>
    match entries.lookup "type" with
    | some tag => e.convertTag tag
    | none => .error (.misfit (.missingField "type"))
  | .list _ [] => .error (.misfit (.missingField "type"))
  | .list _ (tag :: rest) => do
    let a ← e.convertTag tag
    if rest.isEmpty then return a
    else .error (.misfit (.wrongLength rest.length "0 elements in sequence"))
  | other => .error (.misfit (.wrongType other.found e.expected))

/-- The codec of an enumeration whose variants are objects. -/
def codec (e : TaggedEnumeration α) : Codec α where
  encode a := .object [("type", .text (e.label a))]
  decode := e.decode
  convert := e.convert

end TaggedEnumeration

end ClusterHarness.Schema
