import ClusterHarness.Text.Numeral

/-!
# Paths of keys

The key of a value in a layer spells the path to the value: names with dots between them, and behind
each name any number of positions in brackets, as in `regions[0].name`.
-/

namespace ClusterHarness.Settings

inductive PathStep where
  /-- To the entry of a table. -/
  | name (text : String)
  /-- To the item of a list. A negative position counts from the end. -/
  | position (index : Int)
  deriving Repr, DecidableEq

def isNameChar (c : Char) : Bool := c.isAlphanum || c == ' ' || c == '_' || c == '-'

/-- Reads a name, which is not empty. -/
def pathName? (s : List Char) : Option (PathStep × List Char) :=
  let name := s.takeWhile isNameChar
  if name.isEmpty then none else some (.name (String.ofList name), s.drop name.length)

/-- What follows blanks. -/
def skipGap (s : List Char) : List Char := s.dropWhile fun c => c == ' ' || c == '\t'

/-- Reads a position behind its opening bracket: an integer of 64 bits, which may have blanks around
it, and the closing bracket. -/
def pathPosition? (s : List Char) : Option (PathStep × List Char) := do
  let s := skipGap s
  let sign := if s.head? = some '-' then ['-'] else []
  let digits := (s.drop sign.length).takeWhile Text.isDigit
  let index ← (Text.readInt Text.leastI64 Text.maxI64 (sign ++ digits)).toOption
  match skipGap (s.drop (sign.length + digits.length)) with
  | ']' :: rest => some (.position index, rest)
  | _ => none

/-- Reads the steps behind the first one, at most `fuel` of them. -/
def moreSteps? (fuel : Nat) (s : List Char) : Option (List PathStep) :=
  match fuel, s with
  | _, [] => some []
  | fuel + 1, '.' :: rest => do
    let (step, rest) ← pathName? rest
    return step :: (← moreSteps? fuel rest)
  | fuel + 1, '[' :: rest => do
    let (step, rest) ← pathPosition? rest
    return step :: (← moreSteps? fuel rest)
  | _, _ => none

/-- The path that a key spells. A key that spells none is a name as a whole. -/
def keyPath (key : String) : List PathStep :=
  let path := do
    let (step, rest) ← pathName? key.toList
    return step :: (← moreSteps? rest.length rest)
  path.getD [.name key]

end ClusterHarness.Settings
