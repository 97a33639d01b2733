import ClusterHarness.Json.Token

/-!
# Reading JSON

What a JSON text says, in the order of the text and as far as it is well formed. A text that breaks
off keeps everything in front of the break, so that whoever decodes it meets a wrong value before a
break that comes later.
-/

namespace ClusterHarness.Json

/-- The content of a JSON text. Containers tell whether their end was reached. -/
inductive Reading where
  /-- The text is not well formed from here on. -/
  | malformed
  | null
  | bool (value : Bool)
  | number (value : Number)
  /-- A number too large for every number type. -/
  | hugeNumber
  | text (value : String)
  /-- A text that names half of a surrogate pair. -/
  | brokenText
  | array (items : List Reading) (closed : Bool)
  /-- A member without a name has one that names half of a surrogate pair. -/
  | object (members : List (Option String × Reading)) (closed : Bool)

/-- A container that is being read, with what it holds so far, the last one first. -/
inductive Frame where
  | array (done : List Reading)
  | member (done : List (Option String × Reading)) (name : Option String)

/-- What the next token has to be. -/
inductive Place where
  | value
  | firstItem
  | firstName
  | name (done : List (Option String × Reading))
  | colon (done : List (Option String × Reading)) (name : Option String)
  | done (value : Reading)

namespace Reading

/-- Closes every container around a value at which the text breaks off. -/
def abandon (r : Reading) : List Frame → Reading
  | [] => r
  | .array done :: frames => abandon (.array (r :: done).reverse false) frames
  | .member done name :: frames => abandon (.object ((name, r) :: done).reverse false) frames

/-- The place and the open containers after a token that begins a value, if it does begin one. -/
def begin? (frames : List Frame) : Token → Option (Place × List Frame)
  | .null => some (.done .null, frames)
  | .bool b => some (.done (.bool b), frames)
  | .number n => some (.done (.number n), frames)
  | .hugeNumber => some (.done .hugeNumber, frames)
  | .text s => some (.done (.text s), frames)
  | .brokenText => some (.done .brokenText, frames)
  | .openArray => some (.firstItem, frames)
  | .openObject => some (.firstName, frames)
  | _ => none

def breakOff (frames : List Frame) : Place → Reading
  | .value => abandon .malformed frames
  | .firstItem => abandon (.array [] false) frames
  | .firstName => abandon (.object [] false) frames
  | .name done => abandon (.object done.reverse false) frames
  | .colon done name => abandon (.object ((name, .malformed) :: done).reverse false) frames
  | .done r =>
    match frames with
    | [] => r
    | .array done :: frames => abandon (.array (r :: done).reverse false) frames
    | .member done name :: frames => abandon (.object ((name, r) :: done).reverse false) frames

def memberName? : Token → Option (Option String)
  | .text s => some (some s)
  | .brokenText => some none
  | _ => none

/-- The place and the open containers after a token, if the token may stand at this place. -/
def step? (frames : List Frame) : Place → Token → Option (Place × List Frame)
  | .value, token => begin? frames token
  | .firstItem, .closeArray => some (.done (.array [] true), frames)
  | .firstItem, token => begin? (.array [] :: frames) token
  | .firstName, .closeObject => some (.done (.object [] true), frames)
  | .firstName, token => (memberName? token).map fun name => (.colon [] name, frames)
  | .name done, token => (memberName? token).map fun name => (.colon done name, frames)
  | .colon done name, .colon => some (.value, .member done name :: frames)
  | .colon .., _ => none
  | .done r, token =>
    match frames, token with
    | .array done :: frames, .comma => some (.value, .array (r :: done) :: frames)
    | .array done :: frames, .closeArray => some (.done (.array (r :: done).reverse true), frames)
    | .member done name :: frames, .comma => some (.name ((name, r) :: done), frames)
    | .member done name :: frames, .closeObject =>
      some (.done (.object ((name, r) :: done).reverse true), frames)
    | _, _ => none

/-- Reads tokens from a place on: what was read, and whether the text ended with it. -/
def run (place : Place) (frames : List Frame) : List Token → Reading × Bool
  | [] =>
    match place, frames with
    | .done r, [] => (r, true)
    | place, frames => (breakOff frames place, false)
  | token :: rest =>
    match step? frames place token with
    | some (place, frames) => run place frames rest
    | none => (breakOff frames place, false)

mutual

/-- Whether a value is well formed, whatever it stands for. -/
def wellFormed : Reading → Bool
  | .malformed => false
  | .array items closed => closed && allWellFormed items
  | .object members closed => closed && allMembersWellFormed members
  | _ => true

def allWellFormed : List Reading → Bool
  | [] => true
  | item :: rest => item.wellFormed && allWellFormed rest

def allMembersWellFormed : List (Option String × Reading) → Bool
  | [] => true
  | (_, value) :: rest => value.wellFormed && allMembersWellFormed rest

end

mutual

/-- The value that was read, when it is well formed, every number and text in it stands for a value,
and containers are nested at most `room` deep. -/
def json? (room : Nat) : Reading → Option Json
  | .malformed => none
  | .null => some .null
  | .bool b => some (.bool b)
  | .number n => some (.number n)
  | .hugeNumber => none
  | .text s => some (.text s)
  | .brokenText => none
  | .array items closed =>
    if closed && 0 < room then (jsonItems? (room - 1) items).map .array else none
  | .object members closed =>
    if closed && 0 < room then (jsonMembers? (room - 1) members).map .object else none

def jsonItems? (room : Nat) : List Reading → Option (List Json)
  | [] => some []
  | item :: rest => do return (← item.json? room) :: (← jsonItems? room rest)

/-- The names and values of members. -/
def jsonMembers? (room : Nat) : List (Option String × Reading) → Option (List (String × Json))
  | [] => some []
  | (name, value) :: rest => do
    return (← name, ← value.json? room) :: (← jsonMembers? room rest)

end

end Reading

/-- How deep the containers of a text may be nested. -/
def maxNesting : Nat := 127

/-- Reads a text: what it says, and whether nothing but blanks follows that. -/
def read (s : String) : Reading × Bool := Reading.run .value [] (tokens s.toList)

mutual

/-- A value as a text would give it. -/
def reading : Json → Reading
  | .null => .null
  | .bool b => .bool b
  | .number n => .number n
  | .text s => .text s
  | .array items => .array (itemReadings items) true
  | .object members => .object (memberReadings members) true

/-- Items as a text would give them. -/
def itemReadings : List Json → List Reading
  | [] => []
  | item :: rest => item.reading :: itemReadings rest

/-- Members as a text would give them. -/
def memberReadings : List (String × Json) → List (Option String × Reading)
  | [] => []
  | (name, value) :: rest => (some name, value.reading) :: memberReadings rest

end

/-- The value of a text that holds exactly one. -/
def parse? (s : String) : Option Json :=
  match read s with
  | (r, true) => r.json? maxNesting
  | (_, false) => none

/-- Puts a member in its place by name, in front of which no other of that name is kept. -/
def insertMember (name : String) (value : Json) : List (String × Json) → List (String × Json)
  | [] => [(name, value)]
  | (other, v) :: rest =>
    if name < other then (name, value) :: (other, v) :: rest
    else if name = other then (other, v) :: rest
    else (other, v) :: insertMember name value rest

mutual

/-- The value with the members of every object in the order of their names, and of several members of
one name only the last. -/
def sorted : Json → Json
  | .array items => .array (sortedItems items)
  | .object members => .object (sortedMembers members)
  | v => v

/-- Items, each of them sorted. -/
def sortedItems : List Json → List Json
  | [] => []
  | item :: rest => item.sorted :: sortedItems rest

/-- Members in the order of their names. -/
def sortedMembers : List (String × Json) → List (String × Json)
  | [] => []
  | (name, value) :: rest => insertMember name value.sorted (sortedMembers rest)

end

end ClusterHarness.Json
