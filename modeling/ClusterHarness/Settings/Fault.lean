import ClusterHarness.Schema.Misfit

/-!
# Settings that cannot be used

Why settings cannot be loaded or converted, and the words for it. A value of the wrong type is named
by the path of keys that leads to it and by the place it was read from.
-/

namespace ClusterHarness.Settings

/-- A step on the way to a setting. -/
inductive Step where
  | key (name : String)
  | index (position : Nat)
  deriving Repr, DecidableEq

/-- A path in words. A dot stands between a key and the key behind it. -/
def pathText : List Step → String
  | [] => ""
  | .index i :: rest => "[" ++ Text.natText i ++ "]" ++ pathText rest
  | .key name :: rest =>
    let tail := pathText rest
    if tail.isEmpty || tail.toList.head? == some '[' then name ++ tail else name ++ "." ++ tail

/-- What stands where a scalar is expected. -/
inductive Found where
  | nothing
  | signed (value : Int)
  | unsigned (value : Nat)
  | text (value : String)
  | sequence
  | map
  deriving Repr, DecidableEq

def Found.describe : Found → String
  | .nothing => "unit value"
  | .signed n => "64-bit integer " ++ Text.ticked (Text.intText n)
  | .unsigned n => "64-bit unsigned integer " ++ Text.ticked (Text.natText n)
  | .text s => "string " ++ Text.quoted s
  | .sequence => "sequence"
  | .map => "map"

/-- Why settings cannot be used. -/
inductive Fault where
  /-- A scalar cannot be converted. -/
  | wrongType (found : Found) (expected : String) (path : List Step) (origin : Option String)
  /-- A value does not fit its schema. -/
  | misfit (misfit : Schema.Misfit)
  /-- No variant of the enumeration has this name, whatever its case. -/
  | noVariant (enumeration name : String)
  /-- A value that can name no variant. -/
  | notAVariant (enumeration : String)
  /-- A current value above the largest signed integer, which no layer can hold. -/
  | aboveLimit (value : Nat)
  /-- A file is not written in its format. -/
  | unreadable
  | noSuchFile (name : String)
  /-- A file is found whose format is not known. -/
  | unknownFormat (path : String)
  deriving Repr, DecidableEq

def Fault.below (step : Step) : Fault → Fault
  | .wrongType found expected path origin => .wrongType found expected (step :: path) origin
  | other => other

/-- The fault in words. What is wrong with the text of a file is not said. -/
def Fault.message : Fault → String
  | .wrongType found expected path origin =>
    "invalid type: " ++ found.describe ++ ", expected " ++ expected
      ++ (if path.isEmpty then "" else " for key " ++ Text.ticked (pathText path))
      ++ (match origin with | some place => " in " ++ place | none => "")
  | .misfit m => m.message (Binary64.plainText true)
  | .noVariant enumeration name =>
    "enum " ++ enumeration ++ " does not have variant constructor " ++ name
  | .notAVariant enumeration =>
    "value of enum " ++ enumeration
      ++ " should be represented by either string or table with exactly one key"
  | .aboveLimit value =>
    "value " ++ Text.natText value ++ " is greater than the max " ++ Text.natText Text.maxI64
  | .unreadable => "the file is not well formed"
  | .noSuchFile name => "configuration file \"" ++ name ++ "\" not found"
  | .unknownFormat path =>
    "configuration file \"" ++ path ++ "\" is not of a registered file format"

end ClusterHarness.Settings
