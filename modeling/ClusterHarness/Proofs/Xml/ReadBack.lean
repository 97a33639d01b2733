import ClusterHarness.Proofs.Xml.Reader
import Mathlib.Data.List.Nodup

/-! # Reading what was written

The text of an element takes a reader from the elements in front of it to these and that element,
whatever is open around it. The induction is on the element, and the elements inside another are met
with its tag open.
-/

namespace ClusterHarness.Xml

def isName (s : String) : Bool :=
  match s.toList with
  | [] => false
  | c :: cs => isNameStart c && cs.all isNameChar

theorem exists_of_isName {s : String} (proper : isName s = true) :
    ∃ c cs, s.toList = c :: cs ∧ isNameStart c = true ∧ cs.all isNameChar = true := by
  unfold isName at proper
  split at proper
  · cases proper
  · rename_i c cs chars
    exact ⟨c, cs, chars, (Bool.and_eq_true _ _).mp proper⟩

/-- The characters that are written as entities. -/
def markup : List Char := ['&', '<', '>', '"', apostrophe]

namespace Element

/-- Whether attributes have proper names, no two the same. -/
def ProperAttributes (attributes : List (String × String)) : Prop :=
  (∀ a ∈ attributes, isName a.1 = true) ∧ (attributes.map Prod.fst).Nodup

mutual

/-- Whether an element has proper names, and holds a text just when a reader takes it for one. -/
def Proper (conv : Convention) : Element → Prop
  | .bare name attributes => isName name = true ∧ ProperAttributes attributes
  | .leaf name _ => isName name = true ∧ conv.holdsText name = true
  | .node name attributes children =>
    (isName name = true ∧ conv.holdsText name = false) ∧ ProperAttributes attributes ∧
      AllProper conv children

def AllProper (conv : Convention) : List Element → Prop
  | [] => True
  | e :: rest => Proper conv e ∧ AllProper conv rest

end

def mapValues (value : String → String → String) (attributes : List (String × String)) :
    List (String × String) :=
  attributes.map fun a => (a.1, value a.1 a.2)

mutual

/-- Changes the values of attributes, each by the name of its attribute, and all texts. -/
def mapTexts (value : String → String → String) (text : String → String) : Element → Element
  | .bare name attributes => .bare name (mapValues value attributes)
  | .leaf name s => .leaf name (text s)
  | .node name attributes children =>
    .node name (mapValues value attributes) (mapAllTexts value text children)

def mapAllTexts (value : String → String → String) (text : String → String) :
    List Element → List Element
  | [] => []
  | e :: rest => mapTexts value text e :: mapAllTexts value text rest

end

theorem mapAllTexts_eq_map (value : String → String → String) (text : String → String)
    (es : List Element) : mapAllTexts value text es = es.map (mapTexts value text) := by
  induction es with
  | nil => rfl
  | cons e es ih => rw [mapAllTexts, List.map_cons, ih]

theorem mapValues_id (attributes : List (String × String)) :
    mapValues (fun _ => id) attributes = attributes := by
  simp [mapValues]

mutual

theorem mapTexts_id (e : Element) : e.mapTexts (fun _ => id) id = e := by
  cases e with
  | bare name attributes => rw [mapTexts, mapValues_id]
  | leaf name text => rfl
  | node name attributes children => rw [mapTexts, mapValues_id, mapAllTexts_id children]

theorem mapAllTexts_id (es : List Element) : mapAllTexts (fun _ => id) id es = es := by
  cases es with
  | nil => rfl
  | cons e es => rw [mapAllTexts, mapTexts_id e, mapAllTexts_id es]

end

theorem allProper_iff {conv : Convention} {es : List Element} :
    AllProper conv es ↔ ∀ e ∈ es, e.Proper conv := by
  induction es with
  | nil => simp [AllProper]
  | cons e es ih => simp [AllProper, ih]

end Element

def mapChars (f : Char → Char) (s : String) : String := String.ofList (s.toList.map f)

/-! ## Characters -/

theorem mem_markup {c : Char} :
    c ∈ markup ↔ c = '&' ∨ c = '<' ∨ c = '>' ∨ c = '"' ∨ c = apostrophe := by
  simp [markup]

theorem escapeChar_plain {c : Char} (plain : c ∉ markup) : escapeChar c = [c] := by
  simp only [mem_markup, not_or] at plain
  obtain ⟨amp, lt, gt, quot, apos⟩ := plain
  simp [escapeChar, amp, lt, gt, quot, apos]

/-- What is escaped neither ends an attribute nor begins a tag. -/
theorem escapeChar_safe (c : Char) : ∀ d ∈ escapeChar c, d ≠ '"' ∧ d ≠ '<' := by
  by_cases special : c ∈ markup
  · rcases mem_markup.mp special with rfl | rfl | rfl | rfl | rfl <;> simp [escapeChar, apostrophe]
  · have quot : c ≠ '"' := fun same => special (same ▸ by decide)
    have lt : c ≠ '<' := fun same => special (same ▸ by decide)
    simp [escapeChar_plain special, quot, lt]

theorem escape_safe (s : String) : ∀ d ∈ escape s, d ≠ '"' ∧ d ≠ '<' := by
  intro d member
  obtain ⟨c, -, member⟩ := List.mem_flatMap.mp member
  exact escapeChar_safe c d member

namespace Data

def run? (plain : Char → Char) (data : Data) (cs : List Char) : Option Data :=
  cs.foldlM (step? plain) data

variable {plain : Char → Char}

theorem run?_escapeChar (fixed : ∀ c ∈ markup, plain c = c) (chars : List Char) (c : Char) :
    run? plain ⟨chars, none⟩ (escapeChar c) = some ⟨chars ++ [plain c], none⟩ := by
  by_cases special : c ∈ markup
  · rw [fixed c special]
    rcases mem_markup.mp special with rfl | rfl | rfl | rfl | rfl <;> rfl
  · have amp : c ≠ '&' := fun same => special (same ▸ by decide)
    have lt : c ≠ '<' := fun same => special (same ▸ by decide)
    simp [escapeChar_plain special, run?, step?, amp, lt]

theorem run?_escape (fixed : ∀ c ∈ markup, plain c = c) (chars : List Char) (s : String) :
    run? plain ⟨chars, none⟩ (escape s) = some ⟨chars ++ s.toList.map plain, none⟩ := by
  unfold escape
  induction s.toList generalizing chars with
  | nil => simp [run?]
  | cons c cs ih =>
      have first := run?_escapeChar fixed chars c
      have rest := ih (chars ++ [plain c])
      simp only [run?] at first rest ⊢
      rw [List.flatMap_cons, List.foldlM_append, first]
      simpa using rest

theorem run?_blanks {cs : List Char} (blank : ∀ c ∈ cs, Xml.isBlank c = true) (chars : List Char) :
    run? id ⟨chars, none⟩ cs = some ⟨chars ++ cs, none⟩ := by
  induction cs generalizing chars with
  | nil => simp [run?]
  | cons c cs ih =>
      have amp : c ≠ '&' := fun same => absurd (same ▸ blank c (by simp)) (by decide)
      have lt : c ≠ '<' := fun same => absurd (same ▸ blank c (by simp)) (by decide)
      have rest := ih (fun d hd => blank d (by simp [hd])) (chars ++ [c])
      simp only [run?] at rest ⊢
      rw [List.foldlM_cons, step?]
      simpa [amp, lt] using rest

end Data

theorem newLine_blank (level : Nat) : ∀ c ∈ newLine level, isBlank c = true := by
  intro c member
  rcases List.mem_cons.mp member with rfl | member
  · rfl
  · rw [List.eq_of_mem_replicate member]
    rfl

namespace Convention

variable {conv : Convention}

/-- The value of an attribute as a reader takes it, whatever the attribute. -/
def readValue (conv : Convention) (_ value : String) : String := mapChars conv.attributeChar value

/-- Whether some characters take a reader from one state to another. -/
def Reads (conv : Convention) (before : State) (cs : List Char) (after : State) : Prop :=
  conv.run? before cs = some after

theorem Reads.append {a b d : State} {front back : List Char} (first : conv.Reads a front b)
    (rest : conv.Reads b back d) : conv.Reads a (front ++ back) d := by
  unfold Reads run? at *
  rw [List.foldlM_append, first]
  exact rest

theorem Reads.cons {a b d : State} {c : Char} {cs : List Char} (first : conv.step? a c = some b)
    (rest : conv.Reads b cs d) : conv.Reads a (c :: cs) d := by
  unfold Reads run? at *
  rw [List.foldlM_cons, first]
  exact rest

theorem Reads.nil (a : State) : conv.Reads a [] a := rfl

theorem Reads.single {a b : State} {c : Char} (h : conv.step? a c = some b) : conv.Reads a [c] b :=
  .cons h (.nil b)

section

variable (l : Level)

/-! ## Texts and attributes -/

/-- Data is read at a place that takes each of its characters. -/
theorem reads_data {place : Data → Place} {plain : Char → Char} {takes : Char → Prop}
    (taken : ∀ data c, takes c →
      conv.step? ⟨place data, l⟩ c = (data.step? plain c).map fun data => ⟨place data, l⟩)
    {cs : List Char} (safe : ∀ c ∈ cs, takes c) {data data' : Data}
    (read : data.run? plain cs = some data') : conv.Reads ⟨place data, l⟩ cs ⟨place data', l⟩ := by
  induction cs generalizing data with
  | nil =>
      cases read
      exact .nil _
  | cons c cs ih =>
      obtain ⟨next, first, rest⟩ := Option.bind_eq_some_iff.mp read
      have step := taken data c (safe c (by simp))
      rw [first] at step
      exact .cons step (ih (fun d hd => safe d (by simp [hd])) rest)

theorem content_takes (data : Data) (c : Char) (other : c ≠ '<') :
    conv.step? ⟨.content data, l⟩ c = (data.step? id c).map fun data => ⟨.content data, l⟩ := by
  simp [step?, other]

theorem value_takes (tag : Tag) (name : String) (data : Data) (c : Char) (other : c ≠ '"') :
    conv.step? ⟨.value tag name data, l⟩ c =
      (data.step? conv.attributeChar c).map fun data => ⟨.value tag name data, l⟩ := by
  simp [step?, other]

theorem reads_newLine (level : Nat) :
    conv.Reads ⟨.content {}, l⟩ (newLine level) ⟨.content ⟨newLine level, none⟩, l⟩ := by
  have blank := newLine_blank level
  apply reads_data l (content_takes l) _ (Data.run?_blanks blank [])
  intro c member same
  exact absurd (same ▸ blank c member) (by decide)

theorem reads_text (s : String) :
    conv.Reads ⟨.content {}, l⟩ (escape s) ⟨.content ⟨s.toList, none⟩, l⟩ := by
  have read : Data.run? id {} (escape s) = some ⟨s.toList, none⟩ := by
    have fixed : ∀ c ∈ markup, id c = c := fun _ _ => rfl
    have escaped := Data.run?_escape fixed [] s
    rwa [List.map_id, List.nil_append] at escaped
  exact reads_data l (content_takes l) (fun d member => (escape_safe s d member).2) read

/-! ## Tags -/

/-- A name is read at a place that collects its characters. -/
theorem reads_name {place : List Char → Place}
    (grows : ∀ name c, isNameChar c = true →
      conv.step? ⟨place name, l⟩ c = some ⟨place (name ++ [c]), l⟩)
    {cs : List Char} (proper : cs.all isNameChar = true) (name : List Char) :
    conv.Reads ⟨place name, l⟩ cs ⟨place (name ++ cs), l⟩ := by
  induction cs generalizing name with
  | nil => simpa using Reads.nil _
  | cons c cs ih =>
      rw [List.all_cons, Bool.and_eq_true] at proper
      have rest := ih proper.2 (name ++ [c])
      rw [List.append_assoc] at rest
      exact .cons (grows name c proper.1) rest

theorem opening_grows (name : List Char) (c : Char) (proper : isNameChar c = true) :
    conv.step? ⟨.opening name, l⟩ c = some ⟨.opening (name ++ [c]), l⟩ := by
  simp [step?, proper]

theorem attribute_grows (tag : Tag) (name : List Char) (c : Char) (proper : isNameChar c = true) :
    conv.step? ⟨.attribute tag name, l⟩ c = some ⟨.attribute tag (name ++ [c]), l⟩ := by
  simp [step?, proper]

theorem closing_grows (text : Data) (name : List Char) (c : Char) (proper : isNameChar c = true) :
    conv.step? ⟨.closing text name, l⟩ c = some ⟨.closing text (name ++ [c]), l⟩ := by
  have other : c ≠ '>' := fun same => absurd (same ▸ proper) (by decide)
  simp [step?, other]

/-- A place behind a tag as far as it is read, where the tag may end. -/
def Ends (place : Place) (tag : Tag) : Prop :=
  ∀ (conv : Convention) (l : Level) (c : Char), isNameChar c = false →
    conv.step? ⟨place, l⟩ c = tag.behind? l c

theorem ends_opening (name : List Char) : Ends (.opening name) { name := String.ofList name } := by
  intro conv l c other
  simp [step?, other]

theorem ends_quoted (tag : Tag) : Ends (.quoted tag) tag := fun _ _ _ _ => rfl

variable (fixed : ∀ c ∈ markup, conv.attributeChar c = c)
include fixed

theorem reads_attributeChars {place : Place} {tag : Tag} (ends : Ends place tag) {name : String}
    (proper : isName name = true) (fresh : name ∉ tag.attributes.map Prod.fst) (value : String) :
    conv.Reads ⟨place, l⟩ (attributeChars (name, value))
      ⟨.quoted (tag.add name (conv.readValue name value)), l⟩ := by
  obtain ⟨c, cs, chars, start, rest⟩ := exists_of_isName proper
  have name_eq : String.ofList (c :: cs) = name := by rw [← chars, String.ofList_toList]
  have named : conv.Reads ⟨place, l⟩ (' ' :: name.toList) ⟨.attribute tag (c :: cs), l⟩ := by
    rw [chars]
    have blank := ends conv l ' ' (by decide)
    exact .cons blank (.cons (by simp [step?, start]) (reads_name l (attribute_grows l tag) rest [c]))
  have equals : conv.step? ⟨.attribute tag (c :: cs), l⟩ '=' = some ⟨.equals tag name, l⟩ := by
    rw [← name_eq]
    rfl
  have read := reads_data l (value_takes l tag name) (fun d member => (escape_safe value d member).1)
    (Data.run?_escape fixed [] value)
  have closed : conv.step? ⟨.value tag name ⟨value.toList.map conv.attributeChar, none⟩, l⟩ '"' =
      some ⟨.quoted (tag.add name (conv.readValue name value)), l⟩ := by
    simp [step?, fresh, readValue, mapChars]
  exact .append (.append named (.cons equals (.cons rfl read))) (.single closed)

/-- All attributes of a tag, read one after the other. -/
theorem reads_attributes {attributes : List (String × String)}
    (proper : ∀ a ∈ attributes, isName a.1 = true) {place : Place} {tag : Tag} (ends : Ends place tag)
    (fresh : ((tag.attributes ++ attributes).map Prod.fst).Nodup) :
    ∃ next, Ends next { tag with attributes :=
        tag.attributes ++ Element.mapValues conv.readValue attributes } ∧
      conv.Reads ⟨place, l⟩ (attributes.flatMap attributeChars) ⟨next, l⟩ := by
  induction attributes generalizing place tag with
  | nil => exact ⟨place, by simpa [Element.mapValues] using ends, .nil _⟩
  | cons a attributes ih =>
      obtain ⟨name, value⟩ := a
      have new : name ∉ tag.attributes.map Prod.fst := by
        intro old
        rw [List.map_append, List.nodup_append] at fresh
        exact fresh.2.2 name old name (by simp) rfl
      have first := reads_attributeChars l fixed ends (proper _ List.mem_cons_self) new value
      let tag' := tag.add name (conv.readValue name value)
      obtain ⟨next, done, rest⟩ := ih (fun a member => proper a (List.mem_cons_of_mem _ member))
        (ends_quoted tag') (by simpa [tag', Tag.add] using fresh)
      refine ⟨next, ?_, first.append rest⟩
      simpa [tag', Tag.add, Element.mapValues] using done

/-- An opening tag on a line of its own, up to where it may end. -/
theorem reads_tag (nest : conv.mayNest l = true) (level : Nat) {name : String}
    (proper : isName name = true) {attributes : List (String × String)}
    (fields : Element.ProperAttributes attributes) :
    ∃ next, Ends next ⟨name, Element.mapValues conv.readValue attributes⟩ ∧
      conv.Reads ⟨.content {}, l⟩ (newLine level ++ '<' :: tagChars name attributes) ⟨next, l⟩ := by
  obtain ⟨c, cs, chars, start, rest⟩ := exists_of_isName proper
  have blank : Data.isBlank ⟨newLine level, none⟩ = true := List.all_eq_true.mpr (newLine_blank level)
  have first : conv.step? ⟨.tag ⟨newLine level, none⟩, l⟩ c = some ⟨.opening [c], l⟩ := by
    have other : c ≠ '/' := fun same => absurd (same ▸ start) (by decide)
    simp [step?, other, start, blank, nest]
  have named : conv.Reads ⟨.content ⟨newLine level, none⟩, l⟩ ('<' :: name.toList)
      ⟨.opening name.toList, l⟩ := by
    rw [chars]
    exact .cons rfl (.cons first (reads_name l (opening_grows l) rest [c]))
  have ends : Ends (.opening name.toList) { name := name } := by
    simpa using ends_opening name.toList
  obtain ⟨next, done, read⟩ := reads_attributes l fixed fields.1 ends fields.2
  exact ⟨next, done, (reads_newLine l level).append (named.append read)⟩

omit fixed

/-- A closing tag ends the element whose tag is open. -/
theorem reads_end {tag : Tag} (proper : isName tag.name = true) {text : List Char}
    {children : List Element} {e : Element}
    (whole : conv.element? tag children ⟨text, none⟩ = some e) :
    conv.Reads ⟨.content ⟨text, none⟩, (l.enter tag).add children⟩
      ('<' :: '/' :: tag.name.toList ++ ['>']) ⟨.content {}, l.add [e]⟩ := by
  obtain ⟨c, cs, chars, start, rest⟩ := exists_of_isName proper
  have all : tag.name.toList.all isNameChar = true := by
    rw [chars, List.all_cons, rest, isNameChar, start]
    rfl
  have named : conv.Reads ⟨.closing ⟨text, none⟩ [], (l.enter tag).add children⟩ tag.name.toList
      ⟨.closing ⟨text, none⟩ tag.name.toList, (l.enter tag).add children⟩ :=
    reads_name _ (closing_grows _ _) all []
  have closed : conv.step? ⟨.closing ⟨text, none⟩ tag.name.toList, (l.enter tag).add children⟩ '>' =
      some ⟨.content {}, l.add [e]⟩ := by
    simp [step?, close?, Level.enter, Level.add, whole]
  exact .append (.cons rfl (.cons rfl named)) (.single closed)

end

/-! ## Elements -/

mutual

theorem reads_chars (fixed : ∀ c ∈ markup, conv.attributeChar c = c) (l : Level)
    (nest : conv.mayNest l = true) (level : Nat) {e : Element} (proper : e.Proper conv) :
    conv.Reads ⟨.content {}, l⟩ (e.chars level)
      ⟨.content {}, l.add [e.mapTexts conv.readValue id]⟩ := by
  cases e with
  | bare name attributes =>
      obtain ⟨next, ends, tag⟩ := reads_tag l fixed nest level proper.1 proper.2
      have slash := ends conv l '/' (by decide)
      exact .append tag (.cons slash (.single rfl))
  | leaf name text =>
      have none : Element.ProperAttributes [] := ⟨List.forall_mem_nil _, List.nodup_nil⟩
      obtain ⟨next, ends, tag⟩ := reads_tag l fixed nest level proper.1 none
      rw [tagChars, List.flatMap_nil, List.append_nil] at tag
      have opened := ends conv l '>' (by decide)
      have whole : conv.element? ⟨name, []⟩ [] ⟨text.toList, .none⟩ = some (.leaf name text) := by
        simp [element?, proper.2]
      rw [Element.chars, List.append_assoc]
      exact .append (.append tag (.cons opened (reads_text _ text))) (reads_end l proper.1 whole)
  | node name attributes children =>
      obtain ⟨names, fields, inside⟩ := proper
      let tag : Tag := ⟨name, Element.mapValues conv.readValue attributes⟩
      have nest' : conv.mayNest (l.enter tag) = true := by simp [mayNest, Level.enter, tag, names.2]
      obtain ⟨next, ends, read⟩ := reads_tag l fixed nest level names.1 fields
      have opened := ends conv l '>' (by decide)
      have nested := reads_childrenChars fixed (l.enter tag) nest' (level + 1) inside
      have blank : Data.isBlank ⟨newLine level, none⟩ = true :=
        List.all_eq_true.mpr (newLine_blank level)
      have whole : conv.element? tag (Element.mapAllTexts conv.readValue id children)
          ⟨newLine level, none⟩ = some ((Element.node name attributes children).mapTexts
            conv.readValue id) := by
        simp [element?, tag, names.2, blank, Element.mapTexts]
      rw [Element.chars, List.append_assoc]
      exact .append (.append (.append read (.cons opened nested)) (reads_newLine _ level))
        (reads_end l names.1 whole)

theorem reads_childrenChars (fixed : ∀ c ∈ markup, conv.attributeChar c = c) (l : Level)
    (nest : conv.mayNest l = true) (level : Nat) {children : List Element}
    (proper : Element.AllProper conv children) :
    conv.Reads ⟨.content {}, l⟩ (Element.childrenChars level children)
      ⟨.content {}, l.add (Element.mapAllTexts conv.readValue id children)⟩ := by
  cases children with
  | nil => simpa [Element.mapAllTexts, Element.childrenChars, Level.add] using Reads.nil _
  | cons e rest =>
      have first := reads_chars fixed l nest level proper.1
      have more := reads_childrenChars fixed
        (l.add [e.mapTexts conv.readValue id]) nest level proper.2
      simpa [Element.mapAllTexts, Element.childrenChars, Level.add] using first.append more

end

/-- A document is read back as its element, with the characters of attributes as a reader takes them. -/
theorem read?_documentText (fixed : ∀ c ∈ markup, conv.attributeChar c = c) {e : Element}
    (proper : e.Proper conv) :
    conv.read? (documentText e) = some (e.mapTexts conv.readValue id) := by
  have read : conv.run? {} (e.chars 0) =
      some ⟨.content {}, ⟨[e.mapTexts conv.readValue id], []⟩⟩ :=
    reads_chars fixed {} rfl 0 proper
  have declared : declaration.isPrefixOf (declaration ++ e.chars 0) = true :=
    List.isPrefixOf_iff_prefix.mpr (List.prefix_append _ _)
  unfold read? documentText
  rw [String.toList_ofList, if_pos declared, List.drop_left, read]
  rfl

end Convention

end ClusterHarness.Xml
