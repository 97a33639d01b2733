import ClusterHarness.Toml.DateTime
import ClusterHarness.Toml.Number

/-!
# TOML documents

Reading a whole document: keys, values, statements, and the table that the statements build up. A
document that is not well formed, or that defines something twice, is refused as a whole.
-/

namespace ClusterHarness.Toml

/-- The number of levels that keys, lists and tables may not reach. -/
def nestingLimit : Nat := 80

/-- A character of a key without quotes. -/
def isBareKeyChar (c : Char) : Bool := c.isAlphanum || c == '_' || c == '-'

def simpleKey? (s : List Char) : Option (String × List Char) :=
  match shortText? s with
  | some result => some result
  | none =>
    let name := s.takeWhile isBareKeyChar
    if name.isEmpty then none else some (String.ofList name, s.drop name.length)

/-- Reads keys with dots between them, at most `fuel` of them. -/
def dottedKey? (fuel : Nat) (s : List Char) : Option (List String × List Char) :=
  match fuel with
  | 0 => none
  | fuel + 1 => do
    let (key, rest) ← simpleKey? (skipBlanks s)
    match skipBlanks rest with
    | '.' :: rest =>
      let (keys, rest) ← dottedKey? fuel rest
      return (key :: keys, rest)
    | rest => return ([key], rest)

/-- Reads a path of keys: all but the last, the last, and what follows the blanks behind it. -/
def keyPath? (s : List Char) : Option (List String × String × List Char) := do
  let (keys, rest) ← dottedKey? (nestingLimit - 1) s
  let key ← keys.getLast?
  return (keys.dropLast, key, rest)

/-- Reads the items of a list behind its opening bracket, at most `fuel` of them. -/
def listItems? (fuel : Nat) (read : List Char → Option (Item × List Char)) (s : List Char) :
    Option (List Item × List Char) :=
  match fuel, skipLines false s with
  | 0, _ => none
  | _, ']' :: rest => some ([], rest)
  | fuel + 1, s => do
    let (item, rest) ← read s
    match skipLines false rest with
    | ',' :: rest =>
      let (items, rest) ← listItems? fuel read rest
      return (item :: items, rest)
    | ']' :: rest => return ([item], rest)
    | _ => none

/-- Reads the pairs of a table behind its opening brace, at most `fuel` of them. -/
def bracedPairs? (fuel : Nat) (read : List Char → Option (Item × List Char)) (entries : Entries)
    (s : List Char) : Option (Entries × List Char) :=
  match fuel with
  | 0 => none
  | fuel + 1 => do
    let (path, key, rest) ← keyPath? s
    let rest ← mark? '=' rest
    let (value, rest) ← read (skipBlanks rest)
    let entries ← entries.define path key value
    match skipBlanks rest with
    | ',' :: rest => bracedPairs? fuel read entries rest
    | '\x7d' :: rest => return (entries, rest)
    | _ => none

/-- Reads a value without parts. -/
def scalar? (s : List Char) : Option (Item × List Char) :=
  match s with
  | 't' :: 'r' :: 'u' :: 'e' :: rest => some (.bool true, rest)
  | 'f' :: 'a' :: 'l' :: 's' :: 'e' :: rest => some (.bool false, rest)
  | c :: _ =>
    if c == '"' || c == apostrophe then (text? s).map fun (text, rest) => (.text text, rest)
    else
      match dateTime? s with
      | some (text, rest) => some (.date (String.ofList text), rest)
      | none => number? s
  | [] => none

/-- Reads a value whose lists and tables are nested at most `room` deep. -/
def value? (room : Nat) (s : List Char) : Option (Item × List Char) :=
  match room, s with
  | 0, '[' :: _ | 0, '\x7b' :: _ => none
  | room + 1, '[' :: rest =>
    (listItems? (rest.length + 1) (value? room) rest).map fun (items, rest) => (.list items, rest)
  | room + 1, '\x7b' :: rest =>
    match skipBlanks rest with
    | '\x7d' :: rest => some (.table .closed [], rest)
    | rest =>
      (bracedPairs? (rest.length + 1) (value? room) [] rest).map fun (entries, rest) =>
        (.table .closed entries, rest)
  | _, s => scalar? s

/-- Reads the statement that a line begins with, up to the end of its line. -/
def statement? (s : List Char) : Option (Statement × List Char) :=
  match s with
  | '[' :: '[' :: rest => do
    let (path, key, rest) ← keyPath? rest
    let rest ← mark? ']' rest
    let rest ← mark? ']' rest
    return (.element (path ++ [key]), ← finishLine? rest)
  | '[' :: rest => do
    let (path, key, rest) ← keyPath? rest
    let rest ← mark? ']' rest
    return (.table (path ++ [key]), ← finishLine? rest)
  | s => do
    let (path, key, rest) ← keyPath? s
    let rest ← mark? '=' rest
    let (value, rest) ← value? (nestingLimit - 1) (skipBlanks rest)
    return (.pair path key value, ← finishLine? rest)

/-- Reads the statements of a document, at most `fuel` lines of it. -/
def statements? (fuel : Nat) (s : List Char) : Option (List Statement) :=
  match fuel, skipBlanks s with
  | _, [] => some []
  | 0, _ => none
  | fuel + 1, s =>
    match finishLine? s with
    | some rest => statements? fuel rest
    | none => do
      let (statement, rest) ← statement? s
      return statement :: (← statements? fuel rest)

/-- The mark that a text in this encoding may begin with. -/
def skipByteOrderMark (s : List Char) : List Char :=
  match s with
  | c :: rest => if c.toNat = 0xfeff then rest else s
  | [] => []

def document? (s : String) : Option Entries := do
  let chars := skipByteOrderMark s.toList
  Entries.run [] [] (← statements? (chars.length + 1) chars)

end ClusterHarness.Toml
