import ClusterHarness.Schema.Codec
import ClusterHarness.Text.Blank
import ClusterHarness.Text.Numeral
import ClusterHarness.Text.Split

/-!
# Versions of the product under test

A version is a release of three numbers, or the development branch, which comes after every release.
A release is read from two or three numbers with dots between them.
-/

namespace ClusterHarness

/-- A version of the product under test. -/
inductive Version where
  | release (major minor patch : UInt32)
  | dev
  deriving Repr, DecidableEq

namespace Version

/-- Why a text is no version. The text is kept without the blanks around it. -/
inductive Fault where
  /-- The first component that is no number. -/
  | component (text : String) (fault : Text.NumeralFault)
  /-- Neither two nor three components. -/
  | shape (text : String)
  deriving Repr, DecidableEq

def Fault.message : Fault → String
  | .component text fault =>
    "invalid product version '" ++ text ++ "': " ++ fault.message
  | .shape text => "invalid product version '" ++ text ++ "': expected major.minor[.patch]"

/-- Whether this is the development branch. -/
def isDev : Version → Bool
  | .dev => true
  | .release .. => false

def display : Version → String
  | .dev => "dev"
  | .release major minor patch =>
    Text.natText major.toNat ++ "." ++ Text.natText minor.toNat ++ "." ++ Text.natText patch.toNat

/-- Reads every component, up to the first that is no number. -/
def readComponents : List (List Char) → Except Text.NumeralFault (List UInt32)
  | [] => .ok []
  | part :: rest => do
    let n ← Text.readNat Text.maxU32 part
    return UInt32.ofNat n :: (← readComponents rest)

def ofComponents? : List UInt32 → Option Version
  | [major, minor] => some (.release major minor 0)
  | [major, minor, patch] => some (.release major minor patch)
  | _ => none

def readChars (s : List Char) : Except Fault Version :=
  if s.map Char.toLower = ['d', 'e', 'v'] then .ok .dev
  else match readComponents (Text.splitAt '.' s) with
    | .error fault => .error (.component (String.ofList s) fault)
    | .ok components =>
      match ofComponents? components with
      | some v => .ok v
      | none => .error (.shape (String.ofList s))

/-- Reads a version. Blanks around it are left out, and `dev` may be in any case. -/
def read (s : String) : Except Fault Version := readChars (Text.trimChars s.toList)

/-- Order by age: releases by their numbers, then the development branch. -/
def compare : Version → Version → Ordering
  | .dev, .dev => .eq
  | .dev, .release .. => .gt
  | .release .., .dev => .lt
  | .release a b c, .release x y z =>
    (Ord.compare a x).then ((Ord.compare b y).then (Ord.compare c z))

/-- Puts a version in its place among sorted ones, behind its equals. -/
def insert (v : Version) : List Version → List Version
  | [] => [v]
  | w :: rest => if compare v w == .lt then v :: w :: rest else w :: insert v rest

/-- The versions from the oldest to the newest. -/
def sort (versions : List Version) : List Version :=
  versions.foldl (fun sorted v => insert v sorted) []

/-- How many different versions there are. -/
def countDistinct (versions : List Version) : Nat := versions.eraseDups.length

/-- Versions are written as texts. -/
def codec : Schema.Codec Version :=
  .spelled display fun s => (read s).mapError fun fault =>
    "Invalid configuration: " ++ fault.message

end Version

end ClusterHarness
