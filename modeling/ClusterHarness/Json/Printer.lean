import ClusterHarness.Json.Basic
import ClusterHarness.Text.Quoted

/-!
# Printing JSON

The two layouts of a value: compact, with no blank anywhere, and pretty, with one item or member to a
line and two blanks for each level.
-/

namespace ClusterHarness.Json

/-- A character inside a JSON text. Only quotes, backslashes and control characters are escaped. -/
def escapeChar (c : Char) : List Char :=
  if c == '"' then ['\\', '"']
  else if c == '\\' then ['\\', '\\']
  else if c == '\n' then ['\\', 'n']
  else if c == '\r' then ['\\', 'r']
  else if c == '\t' then ['\\', 't']
  else if c.toNat == 8 then ['\\', 'b']
  else if c.toNat == 12 then ['\\', 'f']
  else if c.toNat < 0x20 then
    ['\\', 'u', '0', '0', Text.hexDigit (c.toNat / 16), Text.hexDigit (c.toNat % 16)]
  else [c]

/-- A text between quotes. -/
def textChars (s : String) : List Char := '"' :: s.toList.flatMap escapeChar ++ ['"']

mutual

def compactChars : Json → List Char
  | .null => ['n', 'u', 'l', 'l']
  | .bool b => (Text.boolText b).toList
  | .number n => n.text.toList
  | .text s => textChars s
  | .array items => '[' :: compactItems items ++ [']']
  | .object members => '\x7b' :: compactMembers members ++ ['\x7d']

/-- Items, with commas between them. -/
def compactItems : List Json → List Char
  | [] => []
  | [item] => item.compactChars
  | item :: rest => item.compactChars ++ ',' :: compactItems rest

/-- Members, with commas between them. -/
def compactMembers : List (String × Json) → List Char
  | [] => []
  | [(name, value)] => textChars name ++ ':' :: value.compactChars
  | (name, value) :: rest =>
    textChars name ++ ':' :: value.compactChars ++ ',' :: compactMembers rest

end

def newLine (level : Nat) : List Char := '\n' :: List.replicate (2 * level) ' '

mutual

/-- The pretty layout of a value whose line is at a level. -/
def prettyChars (level : Nat) : Json → List Char
  | .array [] => ['[', ']']
  | .array items => '[' :: prettyItems (level + 1) items ++ newLine level ++ [']']
  | .object [] => ['\x7b', '\x7d']
  | .object members =>
    '\x7b' :: prettyMembers (level + 1) members ++ newLine level ++ ['\x7d']
  | .null => ['n', 'u', 'l', 'l']
  | .bool b => (Text.boolText b).toList
  | .number n => n.text.toList
  | .text s => textChars s

/-- Items, each on a line of its own. -/
def prettyItems (level : Nat) : List Json → List Char
  | [] => []
  | [item] => newLine level ++ item.prettyChars level
  | item :: rest => newLine level ++ item.prettyChars level ++ ',' :: prettyItems level rest

/-- Members, each on a line of its own. -/
def prettyMembers (level : Nat) : List (String × Json) → List Char
  | [] => []
  | [(name, value)] => newLine level ++ textChars name ++ ':' :: ' ' :: value.prettyChars level
  | (name, value) :: rest =>
    newLine level ++ textChars name ++ ':' :: ' ' :: value.prettyChars level
      ++ ',' :: prettyMembers level rest

end

/-- The compact text of a value. -/
def compact (v : Json) : String := String.ofList v.compactChars

/-- The pretty text of a value. -/
def pretty (v : Json) : String := String.ofList (v.prettyChars 0)

end ClusterHarness.Json
