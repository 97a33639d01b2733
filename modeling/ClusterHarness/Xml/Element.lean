/-!
# XML elements

A tree of elements and its text: one element to a line, four blanks for each level. An element holds
attributes alone, a text alone, or other elements. Markup characters in texts and attributes are
written as the five predefined entities.
-/

namespace ClusterHarness.Xml

inductive Element where
  /-- Attributes and no content, in a single tag. -/
  | bare (name : String) (attributes : List (String × String))
  /-- A text between two tags. -/
  | leaf (name text : String)
  /-- Other elements between two tags. -/
  | node (name : String) (attributes : List (String × String)) (children : List Element)

def apostrophe : Char := Char.ofNat 0x27

/-- A character in a text or an attribute. -/
def escapeChar (c : Char) : List Char :=
  if c == '&' then "&amp;".toList
  else if c == '<' then "&lt;".toList
  else if c == '>' then "&gt;".toList
  else if c == '"' then "&quot;".toList
  else if c == apostrophe then "&apos;".toList
  else [c]

def escape (s : String) : List Char := s.toList.flatMap escapeChar

/-- An attribute, with the blank in front of it. -/
def attributeChars : String × String → List Char
  | (name, value) => ' ' :: name.toList ++ '=' :: '"' :: escape value ++ ['"']

/-- The inside of an opening tag. -/
def tagChars (name : String) (attributes : List (String × String)) : List Char :=
  name.toList ++ attributes.flatMap attributeChars

def newLine (level : Nat) : List Char := '\n' :: List.replicate (4 * level) ' '

namespace Element

mutual

/-- An element on a line of its own, with the end of the line in front of it. -/
def chars (level : Nat) : Element → List Char
  | .bare name attributes => newLine level ++ '<' :: tagChars name attributes ++ ['/', '>']
  | .leaf name text =>
    newLine level ++ '<' :: name.toList ++ '>' :: escape text ++ '<' :: '/' :: name.toList ++ ['>']
  | .node name attributes children =>
    newLine level ++ '<' :: tagChars name attributes ++ '>' :: childrenChars (level + 1) children
      ++ newLine level ++ '<' :: '/' :: name.toList ++ ['>']

/-- Elements one below the other. -/
def childrenChars (level : Nat) : List Element → List Char
  | [] => []
  | e :: rest => e.chars level ++ childrenChars level rest

end

end Element

/-- The declaration that a document begins with. -/
def declaration : List Char := "<?xml version=\"1.0\" encoding=\"UTF-8\"?>".toList

def documentText (root : Element) : String := String.ofList (declaration ++ root.chars 0)

end ClusterHarness.Xml
