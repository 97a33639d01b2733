import ClusterHarness.Xml.Element

/-! # Reading XML

A reader that takes one character after the other and knows nothing of how documents are written. It
keeps the tags that are open, and in front of each the elements that are complete. Tags have to match,
attributes have to have different names, and only the five predefined entities are known. References
by number, comments and the like are refused.
-/

namespace ClusterHarness.Xml

def isBlank (c : Char) : Bool := c == ' ' || c == '\n' || c == '\t' || c == '\r'

def isNameStart (c : Char) : Bool := c.isAlpha || c == '_' || c == ':'

def isNameChar (c : Char) : Bool := isNameStart c || c.isDigit || c == '-' || c == '.'

def entities : List (List Char × Char) :=
  [("amp".toList, '&'), ("lt".toList, '<'), ("gt".toList, '>'), ("quot".toList, '"'),
    ("apos".toList, apostrophe)]

/-- What a reader knows beforehand. -/
structure Convention where
  /-- Whether an element holds a text. All others hold elements, with blanks between them. -/
  holdsText : String → Bool
  /-- What a character in an attribute is read as, unless it is written as an entity. -/
  attributeChar : Char → Char

/-- A text or an attribute as far as it is read. -/
structure Data where
  chars : List Char := []
  /-- The name of an entity whose end is still to come. -/
  entity : Option (List Char) := none

namespace Data

def step? (plain : Char → Char) (data : Data) (c : Char) : Option Data :=
  match data.entity with
  | none =>
    if c == '&' then some { data with entity := some [] }
    else if c == '<' then none
    else some { data with chars := data.chars ++ [plain c] }
  | some name =>
    if c == ';' then (entities.lookup name).map fun known => { chars := data.chars ++ [known] }
    else some { data with entity := some (name ++ [c]) }

def isBlank (data : Data) : Bool := data.entity.isNone && data.chars.all Xml.isBlank

end Data

/-- An opening tag as far as it is read. -/
structure Tag where
  name : String
  attributes : List (String × String) := []

def Tag.add (tag : Tag) (name value : String) : Tag :=
  { tag with attributes := tag.attributes ++ [(name, value)] }

/-- Where in the text of a document a reader is. -/
inductive Place where
  /-- Between tags, or in a text. -/
  | content (text : Data)
  /-- Behind the `<` of a tag. -/
  | tag (text : Data)
  /-- In the name of a closing tag. -/
  | closing (text : Data) (name : List Char)
  /-- In the name of an opening tag. -/
  | opening (name : List Char)
  /-- Behind a blank in an opening tag. -/
  | blank (tag : Tag)
  | attribute (tag : Tag) (name : List Char)
  /-- Behind the `=` of an attribute. -/
  | equals (tag : Tag) (name : String)
  | value (tag : Tag) (name : String) (data : Data)
  /-- Behind the closing quote of an attribute. -/
  | quoted (tag : Tag)
  /-- Behind the `/` of a tag without content. -/
  | slash (tag : Tag)

/-- What is read in front of a place. -/
structure Level where
  /-- The elements that are complete, beside one another. -/
  complete : List Element := []
  /-- The tags that are open, the innermost first, each with the elements in front of it. -/
  outer : List (Tag × List Element) := []

namespace Level

def add (level : Level) (es : List Element) : Level :=
  { level with complete := level.complete ++ es }

def enter (level : Level) (tag : Tag) : Level := ⟨[], (tag, level.complete) :: level.outer⟩

end Level

structure State where
  place : Place := .content {}
  level : Level := {}

/-- What may follow the name of a tag, or one of its attributes. -/
def Tag.behind? (tag : Tag) (level : Level) (c : Char) : Option State :=
  if isBlank c then some ⟨.blank tag, level⟩
  else if c == '/' then some ⟨.slash tag, level⟩
  else if c == '>' then some ⟨.content {}, level.enter tag⟩
  else none

namespace Convention

variable (conv : Convention)

/-- Whether elements may stand inside the innermost of the tags that are open. -/
def mayNest (level : Level) : Bool := level.outer.head?.all fun top => !conv.holdsText top.1.name

/-- The element of a tag that is closed, with the elements inside it and the text behind them. -/
def element? (tag : Tag) (children : List Element) (text : Data) : Option Element :=
  if conv.holdsText tag.name then
    if children.isEmpty && tag.attributes.isEmpty && text.entity.isNone then
      some (.leaf tag.name (String.ofList text.chars))
    else none
  else if text.isBlank then some (.node tag.name tag.attributes children)
  else none

def close? (text : Data) (name : String) (level : Level) : Option State :=
  match level.outer with
  | [] => none
  | (tag, before) :: outer =>
    if tag.name == name then
      (conv.element? tag level.complete text).map fun e => ⟨.content {}, ⟨before ++ [e], outer⟩⟩
    else none

def step? (state : State) (c : Char) : Option State :=
  let level := state.level
  match state.place with
  | .content text =>
    if c == '<' && text.entity.isNone then some ⟨.tag text, level⟩
    else (text.step? id c).map fun text => ⟨.content text, level⟩
  | .tag text =>
    if c == '/' then some ⟨.closing text [], level⟩
    else if isNameStart c && text.isBlank && conv.mayNest level then some ⟨.opening [c], level⟩
    else none
  | .closing text name =>
    if c == '>' then conv.close? text (String.ofList name) level
    else some ⟨.closing text (name ++ [c]), level⟩
  | .opening name =>
    if isNameChar c then some ⟨.opening (name ++ [c]), level⟩
    else Tag.behind? { name := String.ofList name } level c
  | .blank tag =>
    if isNameStart c then some ⟨.attribute tag [c], level⟩ else tag.behind? level c
  | .attribute tag name =>
    if isNameChar c then some ⟨.attribute tag (name ++ [c]), level⟩
    else if c == '=' then some ⟨.equals tag (String.ofList name), level⟩
    else none
  | .equals tag name => if c == '"' then some ⟨.value tag name {}, level⟩ else none
  | .value tag name data =>
    if c == '"' && data.entity.isNone then
      if name ∈ tag.attributes.map Prod.fst then none
      else some ⟨.quoted (tag.add name (String.ofList data.chars)), level⟩
    else (data.step? conv.attributeChar c).map fun data => ⟨.value tag name data, level⟩
  | .quoted tag => tag.behind? level c
  | .slash tag =>
    if c == '>' then some ⟨.content {}, level.add [.bare tag.name tag.attributes]⟩ else none

/-- Reads characters one after the other. -/
def run? (state : State) (cs : List Char) : Option State := cs.foldlM conv.step? state

/-- Reads a document: the declaration, and then one element with blanks around it. -/
def read? (s : String) : Option Element :=
  if declaration.isPrefixOf s.toList then
    match conv.run? {} (s.toList.drop declaration.length) with
    | some ⟨.content text, ⟨[e], []⟩⟩ => if text.isBlank then some e else none
    | _ => none
  else none

end Convention

end ClusterHarness.Xml
