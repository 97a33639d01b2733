import ClusterHarness.Schema.Record
import ClusterHarness.Schema.Variant

/-! # Which keys are written

The outline of a JSON value keeps the keys of its objects, at every level, and drops every scalar. The
outline of a record is put together from those of its fields.
-/

namespace ClusterHarness

namespace Json

/-- What is left of a value without its scalars. A null is told from them. -/
inductive Outline where
  | null
  | scalar
  | list (items : List Outline)
  | record (members : List (String × Outline))

namespace Outline

variable {α : Type}

/-- The member of a field that may be unset. -/
def given (name : String) (value : Option α) (shape : α → Outline) : List (String × Outline) :=
  (value.map fun a => (name, shape a)).toList

/-- The member of a scalar that may be unset. -/
def scalarOf (name : String) (value : Option α) : List (String × Outline) :=
  given name value fun _ => .scalar

/-- The member of a collection that is left out when it is empty. -/
def unlessEmpty (name : String) (as : List α) (shape : α → Outline) : List (String × Outline) :=
  if as.isEmpty then [] else [(name, .list (as.map shape))]

end Outline

mutual

def outline : Json → Outline
  | .null => .null
  | .bool _ | .number _ | .text _ => .scalar
  | .array items => .list (itemOutlines items)
  | .object members => .record (memberOutlines members)

def itemOutlines : List Json → List Outline
  | [] => []
  | item :: rest => item.outline :: itemOutlines rest

def memberOutlines : List (String × Json) → List (String × Outline)
  | [] => []
  | (name, v) :: rest => (name, v.outline) :: memberOutlines rest

end

theorem itemOutlines_eq_map (items : List Json) : itemOutlines items = items.map outline := by
  induction items with
  | nil => rfl
  | cons item items ih => rw [itemOutlines, List.map_cons, ih]

end Json

namespace Schema

open Json (Outline)

variable {ρ α : Type}

namespace Codec

@[simp] theorem text_outline (s : String) : (text.encode s).outline = .scalar := rfl

@[simp] theorem bool_outline (b : Bool) : (bool.encode b).outline = .scalar := rfl

@[simp] theorem uint64_outline (n : UInt64) : (uint64.encode n).outline = .scalar := rfl

@[simp] theorem uint32_outline (n : UInt32) : (uint32.encode n).outline = .scalar := rfl

@[simp] theorem uint16_outline (n : UInt16) : (uint16.encode n).outline = .scalar := rfl

@[simp] theorem int32_outline (n : Int32) : (int32.encode n).outline = .scalar := rfl

theorem spelled_outline (write : α → String) (read : String → Except String α) (a : α) :
    ((spelled write read).encode a).outline = .scalar := rfl

@[simp] theorem list_outline (item : Codec α) (as : List α) :
    ((list item).encode as).outline = .list (as.map fun a => (item.encode a).outline) := by
  change Outline.list (Json.itemOutlines (as.map item.encode)) = _
  rw [Json.itemOutlines_eq_map, List.map_map]
  rfl

@[simp] theorem sorted_outline (item : Codec α) (arrange : List α → List α) (as : List α) :
    ((sorted item arrange).encode as).outline = .list (as.map fun a => (item.encode a).outline) :=
  list_outline item as

end Codec

theorem Enumeration.codec_outline (e : Enumeration α) (a : α) :
    (e.codec.encode a).outline = .scalar := rfl

theorem TaggedEnumeration.codec_outline (e : TaggedEnumeration α) (a : α) :
    (e.codec.encode a).outline = .record [("type", .scalar)] := rfl

namespace Field

/-- What a field adds to the outline of its record. -/
def outline (field : Field ρ) (r : ρ) : List (String × Outline) :=
  ((field.encode r).map fun v => (field.name, v.outline)).toList

variable (name : String) (r : ρ)

@[simp] theorem plain_outline (codec : Codec α) (get : ρ → α) (set : α → ρ → ρ) :
    (plain name codec get set).outline r = [(name, (codec.encode (get r)).outline)] := rfl

@[simp] theorem optional_outline (codec : Codec α) (get : ρ → Option α) (set : Option α → ρ → ρ) :
    (optional name codec get set).outline r =
      Outline.given name (get r) fun a => (codec.encode a).outline := by
  cases given : get r with
  | none => simp [outline, optional, given, Outline.given]
  | some a => simp [outline, optional, given, Outline.given]

theorem listed_outline {codec : Codec (List α)} {shape : α → Outline} (get : ρ → List α)
    (set : List α → ρ → ρ) (items : ∀ as, (codec.encode as).outline = .list (as.map shape)) :
    (listed name codec get set).outline r = Outline.unlessEmpty name (get r) shape := by
  cases empty : (get r).isEmpty with
  | true => simp only [outline, listed, empty, Outline.unlessEmpty, if_true, Option.map_none,
      Option.toList_none]
  | false => simp only [outline, listed, empty, Outline.unlessEmpty, Bool.false_eq_true, if_false,
      Option.map_some, Option.toList_some, items]

end Field

namespace Record

theorem members_outline (fields : List (Field ρ)) (r : ρ) :
    Json.memberOutlines (fields.filterMap fun field =>
      (field.encode r).map fun value => (field.name, value)) =
      fields.flatMap fun field => field.outline r := by
  induction fields with
  | nil => rfl
  | cons field fields ih =>
      rw [List.flatMap_cons, ← ih, List.filterMap_cons]
      cases written : field.encode r with
      | none => simp [Field.outline, written]
      | some v => simp [Field.outline, written, Json.memberOutlines]

theorem codec_outline (record : Record ρ) (r : ρ) :
    (record.codec.encode r).outline = .record (record.fields.flatMap fun field => field.outline r) :=
  congrArg Outline.record (members_outline record.fields r)

end Record

end Schema

end ClusterHarness
