import ClusterHarness.Schema.Codec

/-!
# Overrides by name

An override sets one field of a record and leaves the others as they are. Here each override of a
record is found by the name of its field, with its argument in JSON.
-/

namespace ClusterHarness.Schema

/-- The override of one field, made from JSON. -/
structure OverrideForm (ω : Type) where
  field : String
  decode : Json → Except Fault ω

/-- An override whose argument a codec decodes. -/
def OverrideForm.of (field : String) (codec : Codec α) (make : α → ω) : OverrideForm ω where
  field := field
  decode v := do return make (← codec.decode .value v.reading)

/-- The override of the named field, if there is such a field. -/
def override? (forms : List (OverrideForm ω)) (field : String) (argument : Json) :
    Option (Except Fault ω) :=
  (forms.find? fun form => form.field == field).map fun form => form.decode argument

/-- All values that come up while overrides are applied one after the other, from the first one on. -/
def history (apply : α → ω → α) (a : α) : List ω → List α
  | [] => [a]
  | override :: rest => a :: history apply (apply a override) rest

end ClusterHarness.Schema
