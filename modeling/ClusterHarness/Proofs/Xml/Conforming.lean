import ClusterHarness.Proofs.Xml.ReadBack

/-! # Reading as XML prescribes

A conforming reader refuses characters that a document may not hold, takes every end of a line for a
line feed before anything else, and reads white space in attributes as blanks. What it finds in the text
of an element is that element with its strings changed accordingly.
-/

namespace ClusterHarness.Xml

/-- White space other than blanks. -/
def isBreak (c : Char) : Bool := c == '\t' || c == '\n' || c == '\r'

/-- The characters that a document may hold. -/
def isXmlChar (c : Char) : Bool :=
  isBreak c || (0x20 ≤ c.toNat && c.toNat ≤ 0xd7ff) || (0xe000 ≤ c.toNat && c.toNat ≤ 0xfffd) ||
    0x10000 ≤ c.toNat

/-- Whether a document may hold all characters of a string. -/
def Holdable (s : String) : Prop := s.toList.all isXmlChar = true

instance (s : String) : Decidable (Holdable s) := inferInstanceAs (Decidable (_ = true))

/-- Every end of a line as a line feed. -/
def endLines : List Char → List Char
  | '\r' :: '\n' :: rest => '\n' :: endLines rest
  | '\r' :: rest => '\n' :: endLines rest
  | c :: rest => c :: endLines rest
  | [] => []

/-- A character of an attribute, with all white space as blanks. -/
def blankSpace (c : Char) : Char := if isBreak c then ' ' else c

/-- A text as a conforming reader takes it. -/
def textRead (s : String) : String := String.ofList (endLines s.toList)

/-- The value of an attribute as a conforming reader takes it. -/
def valueRead (s : String) : String := mapChars blankSpace (textRead s)

/-- Reads a document as XML prescribes. -/
def readConforming? (holdsText : String → Bool) (s : String) : Option Element :=
  if Holdable s then
    Convention.read? { holdsText, attributeChar := blankSpace } (textRead s)
  else none

/-! ## Ends of lines -/

theorem endLines_cons {c : Char} (other : c ≠ '\r') (rest : List Char) :
    endLines (c :: rest) = c :: endLines rest := by
  rw [endLines]
  · rintro _ rfl
    exact absurd rfl other
  · exact other

theorem endLines_return {rest : List Char} (alone : rest.head? ≠ some '\n') :
    endLines ('\r' :: rest) = '\n' :: endLines rest := by
  rw [endLines]
  rintro more rfl
  exact alone rfl

/-- Characters that are read alike whatever follows them. -/
def Becomes (before after : List Char) : Prop :=
  ∀ rest, endLines (before ++ rest) = after ++ endLines rest

namespace Becomes

theorem append {a a' b b' : List Char} (first : Becomes a a') (second : Becomes b b') :
    Becomes (a ++ b) (a' ++ b') := by
  intro rest
  rw [List.append_assoc, first, second, List.append_assoc]

theorem plain {cs : List Char} (no : '\r' ∉ cs) : Becomes cs cs := by
  intro rest
  induction cs with
  | nil => rfl
  | cons c cs ih =>
      rw [List.mem_cons, not_or] at no
      rw [List.cons_append, endLines_cons (Ne.symm no.1), ih no.2]
      rfl

end Becomes

/-- What is escaped begins with a line feed only if it was one. -/
theorem escape_head {cs : List Char} (head : cs.head? ≠ some '\n') {d : Char} (other : d ≠ '\n')
    (rest : List Char) : (cs.flatMap escapeChar ++ d :: rest).head? ≠ some '\n' := by
  cases cs with
  | nil => simpa using other
  | cons c cs =>
      have feed : c ≠ '\n' := by simpa using head
      by_cases special : c ∈ markup
      · rcases mem_markup.mp special with rfl | rfl | rfl | rfl | rfl <;> simp [escapeChar, apostrophe]
      · simpa [escapeChar_plain special] using feed

theorem return_notMem_escapeChar {c : Char} (other : c ≠ '\r') : '\r' ∉ escapeChar c := by
  by_cases special : c ∈ markup
  · rcases mem_markup.mp special with rfl | rfl | rfl | rfl | rfl <;> simp [escapeChar, apostrophe]
  · simpa [escapeChar_plain special] using Ne.symm other

/-- Ends of lines in a string are read as such when it is escaped, if no line feed follows it. -/
theorem escaped_becomes (cs : List Char) {d : Char} (feed : d ≠ '\n') (ret : d ≠ '\r') :
    Becomes (cs.flatMap escapeChar ++ [d]) ((endLines cs).flatMap escapeChar ++ [d]) := by
  intro rest
  have newline : escapeChar '\n' = ['\n'] := rfl
  have return' : escapeChar '\r' = ['\r'] := rfl
  simp only [List.append_assoc, List.singleton_append]
  induction cs using endLines.induct with
  | case1 cs ih => simp [endLines, newline, return', ih]
  | case2 cs other ih =>
      have alone : cs.head? ≠ some '\n' := by
        intro head
        obtain ⟨more, rfl⟩ := List.head?_eq_some_iff.mp head
        exact other more rfl
      have escaped := endLines_return (escape_head alone feed rest)
      rw [endLines_return alone, List.flatMap_cons, return', List.flatMap_cons, newline]
      simp only [List.cons_append, List.nil_append, escaped, ih]
  | case3 c cs pair single ih =>
      have other : c ≠ '\r' := fun same => single same
      rw [endLines_cons other, List.flatMap_cons, List.flatMap_cons, List.append_assoc,
        Becomes.plain (return_notMem_escapeChar other), ih, List.append_assoc]
  | case4 => simpa [endLines] using endLines_cons ret rest

/-! ## Strings that are read as they are -/

theorem return_notMem_endLines (cs : List Char) : '\r' ∉ endLines cs := by
  induction cs using endLines.induct with
  | case1 cs ih => simpa [endLines] using ih
  | case2 cs other ih => simpa [endLines] using ih
  | case3 c cs pair single ih =>
      have other : c ≠ '\r' := fun same => single same
      rw [endLines_cons other, List.mem_cons, not_or]
      exact ⟨Ne.symm other, ih⟩
  | case4 => exact List.not_mem_nil

theorem endLines_eq_self_iff {cs : List Char} : endLines cs = cs ↔ '\r' ∉ cs := by
  constructor
  · intro same
    exact same ▸ return_notMem_endLines cs
  · intro no
    have all := Becomes.plain no []
    rwa [List.append_nil, endLines, List.append_nil] at all

theorem textRead_eq_self_iff {s : String} : textRead s = s ↔ '\r' ∉ s.toList := by
  rw [← endLines_eq_self_iff, textRead, ← String.toList_inj, String.toList_ofList]

theorem isBreak_blankSpace (c : Char) : isBreak (blankSpace c) = false := by
  unfold blankSpace
  split
  · rfl
  · rename_i other
    simpa using other

theorem valueRead_eq_self_iff {s : String} :
    valueRead s = s ↔ ∀ c ∈ s.toList, isBreak c = false := by
  constructor
  · intro same c member
    rw [← same, valueRead, mapChars, String.toList_ofList] at member
    obtain ⟨d, -, rfl⟩ := List.mem_map.mp member
    exact isBreak_blankSpace d
  · intro none
    have text : textRead s = s :=
      textRead_eq_self_iff.mpr fun member => absurd (none _ member) (by decide)
    have blanks : s.toList.map blankSpace = s.toList := by
      refine (List.map_congr_left fun c member => ?_).trans (List.map_id _)
      simp [blankSpace, none c member]
    rw [valueRead, text, mapChars, blanks, String.ofList_toList]

theorem name_becomes {s : String} (proper : isName s = true) : Becomes s.toList s.toList := by
  apply Becomes.plain
  obtain ⟨c, cs, chars, start, rest⟩ := exists_of_isName proper
  intro member
  have proper : isNameChar '\r' = true := by
    rw [chars] at member
    rcases List.mem_cons.mp member with rfl | member
    · rw [isNameChar, start]
      rfl
    · exact List.all_eq_true.mp rest _ member
  exact absurd proper (by decide)

theorem attributes_become {attributes : List (String × String)}
    (proper : ∀ a ∈ attributes, isName a.1 = true) :
    Becomes (attributes.flatMap attributeChars)
      ((Element.mapValues (fun _ => textRead) attributes).flatMap attributeChars) := by
  induction attributes with
  | nil => exact .plain List.not_mem_nil
  | cons a attributes ih =>
      obtain ⟨name, value⟩ := a
      have blank : Becomes [' '] [' '] := .plain (by decide)
      have quote : Becomes ['=', '"'] ['=', '"'] := .plain (by decide)
      have quoted := quote.append (escaped_becomes value.toList (d := '"') (by decide) (by decide))
      have named := blank.append (name_becomes (proper _ List.mem_cons_self))
      have rest := ih fun a member => proper a (List.mem_cons_of_mem _ member)
      simpa [Element.mapValues, attributeChars, escape, textRead] using
        (named.append quoted).append rest

theorem newLine_becomes (level : Nat) : Becomes (newLine level) (newLine level) := by
  apply Becomes.plain
  simp [newLine, List.mem_replicate]

theorem tag_becomes {name : String} (proper : isName name = true) {attributes : List (String × String)}
    (fields : Element.ProperAttributes attributes) (level : Nat) :
    Becomes (newLine level ++ '<' :: tagChars name attributes)
      (newLine level ++ '<' :: tagChars name (Element.mapValues (fun _ => textRead) attributes)) := by
  have less : Becomes ['<'] ['<'] := .plain (by decide)
  have tag := (name_becomes proper).append (attributes_become fields.1)
  exact (newLine_becomes level).append (less.append tag)

mutual

theorem chars_become {conv : Convention} {e : Element} (proper : e.Proper conv) (level : Nat) :
    Becomes (e.chars level) ((e.mapTexts (fun _ => textRead) textRead).chars level) := by
  cases e with
  | bare name attributes =>
      have close : Becomes ['/', '>'] ['/', '>'] := .plain (by decide)
      exact (tag_becomes proper.1 proper.2 level).append close
  | leaf name text =>
      have less : Becomes ['<'] ['<'] := .plain (by decide)
      have greater : Becomes ['>'] ['>'] := .plain (by decide)
      have slash : Becomes ['/'] ['/'] := .plain (by decide)
      have name' := name_becomes proper.1
      have opened := (newLine_becomes level).append (less.append (name'.append greater))
      have held := escaped_becomes text.toList (d := '<') (by decide) (by decide)
      have closed := slash.append (name'.append greater)
      simpa [Element.chars, Element.mapTexts, escape, textRead] using
        (opened.append held).append closed
  | node name attributes children =>
      have greater : Becomes ['>'] ['>'] := .plain (by decide)
      have slash : Becomes ['<', '/'] ['<', '/'] := .plain (by decide)
      have name' := name_becomes proper.1.1
      have opened := (tag_becomes proper.1.1 proper.2.1 level).append greater
      have inside := children_become proper.2.2 (level + 1)
      have closed := (newLine_becomes level).append (slash.append (name'.append greater))
      simpa [Element.chars, Element.mapTexts] using (opened.append inside).append closed

theorem children_become {conv : Convention} {children : List Element}
    (proper : Element.AllProper conv children) (level : Nat) :
    Becomes (Element.childrenChars level children)
      (Element.childrenChars level
        (Element.mapAllTexts (fun _ => textRead) textRead children)) := by
  cases children with
  | nil => exact .plain List.not_mem_nil
  | cons e rest => exact (chars_become proper.1 level).append (children_become proper.2 level)

end

/-! ## What is read -/

namespace Element

mutual

theorem mapTexts_mapTexts (value value' : String → String → String) (text text' : String → String)
    (e : Element) : (e.mapTexts value text).mapTexts value' text' =
      e.mapTexts (fun name s => value' name (value name s)) fun s => text' (text s) := by
  cases e with
  | bare name attributes => simp [mapTexts, mapValues]
  | leaf name s => rfl
  | node name attributes children =>
      simp [mapTexts, mapValues, mapAllTexts_mapAllTexts value value' text text' children]

theorem mapAllTexts_mapAllTexts (value value' : String → String → String)
    (text text' : String → String) (es : List Element) :
    mapAllTexts value' text' (mapAllTexts value text es) =
      mapAllTexts (fun name s => value' name (value name s)) (fun s => text' (text s)) es := by
  cases es with
  | nil => rfl
  | cons e es =>
      simp [mapAllTexts, mapTexts_mapTexts value value' text text' e,
        mapAllTexts_mapAllTexts value value' text text' es]

end

theorem properAttributes_mapValues {value : String → String → String}
    {attributes : List (String × String)} (proper : ProperAttributes attributes) :
    ProperAttributes (mapValues value attributes) := by
  obtain ⟨names, distinct⟩ := proper
  constructor
  · intro a member
    obtain ⟨b, there, rfl⟩ := List.mem_map.mp member
    exact names b there
  · simpa [mapValues, Function.comp_def] using distinct

mutual

theorem mapTexts_proper {conv : Convention} {value : String → String → String}
    {text : String → String} {e : Element} (proper : e.Proper conv) :
    (e.mapTexts value text).Proper conv := by
  cases e with
  | bare name attributes => exact ⟨proper.1, properAttributes_mapValues proper.2⟩
  | leaf name s => exact proper
  | node name attributes children =>
      exact ⟨proper.1, properAttributes_mapValues proper.2.1, mapAllTexts_proper proper.2.2⟩

theorem mapAllTexts_proper {conv : Convention} {value : String → String → String}
    {text : String → String} {es : List Element} (proper : AllProper conv es) :
    AllProper conv (mapAllTexts value text es) := by
  cases es with
  | nil => trivial
  | cons e es => exact ⟨mapTexts_proper proper.1, mapAllTexts_proper proper.2⟩

end

end Element

/-! ## Which characters are written -/

namespace Element

mutual

/-- Whether a property holds of all strings in an element: names, values and texts. -/
def All (p : String → Prop) : Element → Prop
  | .bare name attributes => p name ∧ ∀ a ∈ attributes, p a.1 ∧ p a.2
  | .leaf name text => p name ∧ p text
  | .node name attributes children =>
    (p name ∧ ∀ a ∈ attributes, p a.1 ∧ p a.2) ∧ AllInside p children

def AllInside (p : String → Prop) : List Element → Prop
  | [] => True
  | e :: rest => All p e ∧ AllInside p rest

end

theorem allInside_iff {p : String → Prop} {es : List Element} :
    AllInside p es ↔ ∀ e ∈ es, e.All p := by
  induction es with
  | nil => simp [AllInside]
  | cons e es ih => simp [AllInside, ih]

end Element

theorem escapeChar_all (c : Char) : (escapeChar c).all isXmlChar = isXmlChar c := by
  by_cases special : c ∈ markup
  · rcases mem_markup.mp special with rfl | rfl | rfl | rfl | rfl <;> rfl
  · simp [escapeChar_plain special]

theorem escape_all (s : String) : (escape s).all isXmlChar = s.toList.all isXmlChar := by
  unfold escape
  induction s.toList with
  | nil => rfl
  | cons c cs ih => rw [List.flatMap_cons, List.all_append, escapeChar_all, ih, List.all_cons]

theorem newLine_all (level : Nat) : (newLine level).all isXmlChar = true := by
  simp [newLine, isXmlChar, isBreak]

theorem attributes_all (attributes : List (String × String)) :
    (attributes.flatMap attributeChars).all isXmlChar = true ↔
      ∀ a ∈ attributes, Holdable a.1 ∧ Holdable a.2 := by
  induction attributes with
  | nil => simp
  | cons a attributes ih =>
      have blank : isXmlChar ' ' = true := rfl
      have equals : isXmlChar '=' = true := rfl
      have quote : isXmlChar '"' = true := rfl
      simp only [List.flatMap_cons, List.all_append, attributeChars, List.all_cons, List.all_nil, blank,
        equals, quote, escape_all, Bool.and_eq_true, true_and, and_true, ih, List.forall_mem_cons,
        Holdable]

theorem tagChars_all (name : String) (attributes : List (String × String)) :
    (tagChars name attributes).all isXmlChar = true ↔
      Holdable name ∧ ∀ a ∈ attributes, Holdable a.1 ∧ Holdable a.2 := by
  rw [tagChars, List.all_append, Bool.and_eq_true, attributes_all, Holdable]

mutual

theorem chars_all (e : Element) (level : Nat) :
    (e.chars level).all isXmlChar = true ↔ e.All Holdable := by
  have less : isXmlChar '<' = true := rfl
  have greater : isXmlChar '>' = true := rfl
  have slash : isXmlChar '/' = true := rfl
  cases e with
  | bare name attributes =>
      simp only [Element.chars, List.all_append, List.all_cons, List.all_nil, newLine_all, less, greater,
        slash, Bool.and_eq_true, tagChars_all, Element.All, true_and, and_true]
  | leaf name text =>
      simp only [Element.chars, List.all_append, List.all_cons, List.all_nil, newLine_all, less, greater,
        slash, escape_all, Bool.and_eq_true, Element.All, Holdable, true_and, and_true]
      exact ⟨fun h => h.1, fun h => ⟨h, h.1⟩⟩
  | node name attributes children =>
      simp only [Element.chars, List.all_append, List.all_cons, List.all_nil, newLine_all, less, greater,
        slash, Bool.and_eq_true, tagChars_all, children_all children (level + 1), Element.All, true_and,
        and_true]
      exact ⟨fun h => h.1, fun h => ⟨h, h.1.1⟩⟩

theorem children_all (es : List Element) (level : Nat) :
    (Element.childrenChars level es).all isXmlChar = true ↔ Element.AllInside Holdable es := by
  cases es with
  | nil => simp [Element.childrenChars, Element.AllInside]
  | cons e es =>
      rw [Element.childrenChars, List.all_append, Bool.and_eq_true, chars_all e level,
        children_all es level, Element.AllInside]

end

theorem documentText_holdable (e : Element) : Holdable (documentText e) ↔ e.All Holdable := by
  have declared : declaration.all isXmlChar = true := by decide
  rw [Holdable, documentText, String.toList_ofList, List.all_append, declared, Bool.true_and, chars_all]

/-- A document is read as its element with all strings changed as XML prescribes, if its characters are
those that a document may hold. -/
theorem readConforming?_documentText {holdsText : String → Bool} {e : Element}
    (proper : e.Proper { holdsText, attributeChar := blankSpace }) :
    readConforming? holdsText (documentText e) =
      if Holdable (documentText e) then some (e.mapTexts (fun _ => valueRead) textRead) else none := by
  have declared : Becomes declaration declaration := .plain (by decide)
  have lines : textRead (documentText e) =
      documentText (e.mapTexts (fun _ => textRead) textRead) := by
    have all := declared.append (chars_become proper 0) []
    rw [List.append_nil, endLines, List.append_nil] at all
    rw [textRead, documentText, String.toList_ofList, all, documentText]
  have fixed : ∀ c ∈ markup, blankSpace c = c := by
    intro c special
    rcases mem_markup.mp special with rfl | rfl | rfl | rfl | rfl <;> rfl
  rw [readConforming?, lines, Convention.read?_documentText fixed (Element.mapTexts_proper proper),
    Element.mapTexts_mapTexts]
  rfl

end ClusterHarness.Xml
