import ClusterHarness.Binary64.Shortest
import ClusterHarness.Text.Quoted

/-!
# Values that do not fit a schema

Why a value does not fit the place it stands in, and the words for it.
-/

namespace ClusterHarness.Schema

/-- What stands where something else is expected. -/
inductive Found where
  | null
  | bool (value : Bool)
  | integer (value : Int)
  | real (value : Binary64)
  | text (value : String)
  | sequence
  | map
  /-- The bare name of a variant. -/
  | unitVariant
  | nothing
  deriving Repr, DecidableEq

/-- The words for what was found. Floating point numbers are written as `realText` says. -/
def Found.describe (realText : Binary64 → String) : Found → String
  | .null => "null"
  | .bool b => "boolean " ++ Text.ticked (Text.boolText b)
  | .integer n => "integer " ++ Text.ticked (Text.intText n)
  | .real v => "floating point " ++ Text.ticked (realText v)
  | .text s => "string " ++ Text.quoted s
  | .sequence => "sequence"
  | .map => "map"
  | .unitVariant => "unit variant"
  | .nothing => "unit value"

/-- Why a value does not fit. -/
inductive Misfit where
  /-- A value of another type. -/
  | wrongType (found : Found) (expected : String)
  /-- A value of the right type that the place cannot hold. -/
  | wrongValue (found : Found) (expected : String)
  /-- A sequence with too few or too many elements. -/
  | wrongLength (length : Nat) (expected : String)
  | unknownVariant (name : String) (known : List String)
  | missingField (name : String)
  | duplicateField (name : String)
  | refused (reason : String)
  deriving Repr, DecidableEq

/-- The variants that a message offers. -/
def offered : List String → String
  | [] => "there are no variants"
  | [one] => "expected " ++ Text.ticked one
  | [one, two] => "expected " ++ Text.ticked one ++ " or " ++ Text.ticked two
  | many => "expected one of " ++ String.intercalate ", " (many.map Text.ticked)

def Misfit.message (realText : Binary64 → String) : Misfit → String
  | .wrongType found expected =>
    "invalid type: " ++ found.describe realText ++ ", expected " ++ expected
  | .wrongValue found expected =>
    "invalid value: " ++ found.describe realText ++ ", expected " ++ expected
  | .wrongLength length expected =>
    "invalid length " ++ Text.natText length ++ ", expected " ++ expected
  | .unknownVariant name known => "unknown variant " ++ Text.ticked name ++ ", " ++ offered known
  | .missingField name => "missing field " ++ Text.ticked name
  | .duplicateField name => "duplicate field " ++ Text.ticked name
  | .refused reason => reason

end ClusterHarness.Schema
