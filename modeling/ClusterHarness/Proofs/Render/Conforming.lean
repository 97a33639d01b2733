import ClusterHarness.Proofs.Render.ReadBack
import ClusterHarness.Proofs.Xml.Conforming

/-! # Beans as a conforming reader sees them

Only the five markup characters are escaped. A conforming reader refuses some of the others, and takes
white space in values, and ends of lines in addresses, for other characters. So a configuration is read
as it was written just when none of its strings has such a character, whether it is valid or not.
-/

namespace ClusterHarness

namespace Config

/-- The strings that are written as values of properties. -/
def Storage.values (s : Storage) : List String :=
  s.allRegions.map Region.name ++ s.walPath.toList ++ s.walArchivePath.toList ++ s.cdcWalPath.toList

def Node.values (n : Node) : List String :=
  n.consistentId.toList ++ n.storage.toList.flatMap Storage.values

def Node.addresses (n : Node) : List String := n.discovery.toList.flatMap Discovery.addresses

section

theorem list_map_eq_iff {f : α → α} {as : List α} : as.map f = as ↔ ∀ a ∈ as, f a = a := by
  simpa using List.map_inj_left (f := f) (g := id) (l := as)

theorem option_map_eq_iff {f : α → α} {a : Option α} : a.map f = a ↔ ∀ b ∈ a.toList, f b = b := by
  cases a <;> simp

variable {value text : String → String}

theorem Region.mapTexts_eq_iff {r : Region} : r.mapTexts value = r ↔ value r.name = r.name := by
  cases r
  simp [Region.mapTexts]

theorem Storage.mapTexts_eq_iff {s : Storage} : s.mapTexts value = s ↔ ∀ v ∈ s.values, value v = v := by
  have fields : s.mapTexts value = s ↔ s.defaultRegion.mapTexts value = s.defaultRegion ∧
      s.regions.map (Region.mapTexts value) = s.regions ∧ s.walPath.map value = s.walPath ∧
      s.walArchivePath.map value = s.walArchivePath ∧ s.cdcWalPath.map value = s.cdcWalPath := by
    cases s
    simp [Storage.mapTexts]
  rw [fields, list_map_eq_iff, option_map_eq_iff, option_map_eq_iff, option_map_eq_iff]
  simp only [Region.mapTexts_eq_iff, values, allRegions, List.forall_mem_append, List.map_cons,
    List.forall_mem_cons, List.forall_mem_map, and_assoc]

theorem Discovery.mapTexts_eq_iff {d : Discovery} :
    d.mapTexts text = d ↔ ∀ a ∈ d.addresses, text a = a := by
  have fields : d.mapTexts text = d ↔ d.addresses.map text = d.addresses := by
    cases d
    simp [Discovery.mapTexts]
  rw [fields, list_map_eq_iff]

/-- A change of strings is none just when it leaves each of them as it is. -/
theorem Node.mapTexts_eq_iff {n : Node} :
    n.mapTexts value text = n ↔ (∀ v ∈ n.values, value v = v) ∧ ∀ a ∈ n.addresses, text a = a := by
  have fields : n.mapTexts value text = n ↔ n.consistentId.map value = n.consistentId ∧
      n.discovery.map (Discovery.mapTexts text) = n.discovery ∧
      n.storage.map (Storage.mapTexts value) = n.storage := by
    cases n
    simp [Node.mapTexts]
  rw [fields, option_map_eq_iff, option_map_eq_iff, option_map_eq_iff]
  simp only [Discovery.mapTexts_eq_iff, Storage.mapTexts_eq_iff, values, addresses,
    List.forall_mem_append, List.forall_mem_flatMap]
  constructor
  · rintro ⟨id, discovery, storage⟩
    exact ⟨⟨id, storage⟩, discovery⟩
  · rintro ⟨⟨id, storage⟩, discovery⟩
    exact ⟨id, discovery, storage⟩

end

end Config

namespace Render

open Config
open Xml (Element Holdable)

/-! ## The strings in a tree -/

/-- Whether a property holds of what stands in a slot, if anything does. -/
def Slot.All (p : String → Prop) (slot : Slot) : Prop :=
  match slot.content with
  | none => True
  | some (.scalar text) => p text
  | some (.element e) => e.All p

section

variable {p : String → Prop} (plain : ∀ s, isPlain s = true → p s)
include plain

theorem list_all {es : List Element} : (list es).All p ↔ ∀ e ∈ es, e.All p := by
  have name : p "list" := plain _ (isPlain_of_chars rfl rfl)
  simp [list, Element.All, name, Element.allInside_iff]

theorem bareBean_all {className : String} (named : isPlain className = true) :
    (bareBean className).All p := by
  have bean : p "bean" := plain _ (isPlain_of_chars rfl rfl)
  have key : p "class" := plain _ (isPlain_of_chars rfl rfl)
  simp [bareBean, Element.All, bean, key, plain className named]

theorem Slot.element_all {slot : Slot} (named : isPlain slot.name = true) :
    (∀ e, slot.element? = some e → e.All p) ↔ slot.All p := by
  have property' : p "property" := plain _ (isPlain_of_chars rfl rfl)
  have key : p "name" := plain _ (isPlain_of_chars rfl rfl)
  have value : p "value" := plain _ (isPlain_of_chars rfl rfl)
  have name := plain slot.name named
  obtain ⟨name', content⟩ := slot
  rcases content with _ | content | e
  · simp [Slot.element?, Slot.All]
  · simp_all [Slot.element?, Slot.All, property, Element.All]
  · simp_all [Slot.element?, Slot.All, holder, Element.All, Element.AllInside]

theorem table_all {className : String} (named : isPlain className = true) {slots : List Slot}
    (names : (slots.map Slot.name).all isPlain = true) :
    (table className slots).All p ↔ ∀ slot ∈ slots, slot.All p := by
  have bean' : p "bean" := plain _ (isPlain_of_chars rfl rfl)
  have key : p "class" := plain _ (isPlain_of_chars rfl rfl)
  have each : ∀ slot ∈ slots, (∀ e, slot.element? = some e → e.All p) ↔ slot.All p := by
    intro slot member
    exact Slot.element_all plain (List.all_eq_true.mp names _ (List.mem_map_of_mem member))
  simp only [table, bean, Element.All, bean', key, plain className named, List.forall_mem_cons,
    List.not_mem_nil, false_imp_iff, implies_true, Element.allInside_iff, List.forall_mem_filterMap,
    true_and]
  exact forall₂_congr each

namespace Slot

variable {α : Type} (name : String)

omit plain

@[simp] theorem always_all (text : String) : (always name text).All p ↔ p text := Iff.rfl

@[simp] theorem holding_all (e : Element) : (holding name e).All p ↔ e.All p := Iff.rfl

@[simp] theorem given_all (show_ : α → String) (value : Option α) :
    (given name show_ value).All p ↔ ∀ a ∈ value.toList, p (show_ a) := by
  cases value <;> simp [given, Slot.All]

@[simp] theorem nested_all (tree : α → Element) (value : Option α) :
    (nested name tree value).All p ↔ ∀ a ∈ value.toList, (tree a).All p := by
  cases value <;> simp [nested, Slot.All]

include plain

theorem listed_all (tree : α → Element) (items : List α) :
    (listed name tree items).All p ↔ ∀ a ∈ items, (tree a).All p := by
  cases items with
  | nil => simp [listed, Slot.All]
  | cons a as => simp [listed, Slot.All, list_all plain]

end Slot

theorem regionTree_all {r : Region} : (regionTree r).All p ↔ p r.name := by
  have warmUp (w : WarmUp) : (warmUpTree w).All p := bareBean_all plain (warmUp_className_plain w)
  rw [regionTree, table_all plain (isPlain_of_chars rfl rfl) (regionSlots_plain r)]
  simp [regionSlots, plain, warmUp]

theorem storageTree_all {s : Storage} : (storageTree s).All p ↔ ∀ v ∈ s.values, p v := by
  have warmUp (w : WarmUp) : (warmUpTree w).All p := bareBean_all plain (warmUp_className_plain w)
  rw [storageTree, table_all plain (isPlain_of_chars rfl rfl) (storageSlots_plain s)]
  simp only [storageSlots, List.forall_mem_cons, List.not_mem_nil, false_imp_iff, Slot.always_all,
    Slot.holding_all, Slot.given_all, Slot.nested_all, Slot.listed_all plain, regionTree_all plain,
    plain, wordText_plain, uint32Text_plain, int32Text_plain, boolText_plain, walMode_label_plain,
    compression_label_plain, warmUp, Storage.values, Storage.allRegions,
    List.forall_mem_append, List.map_cons, List.forall_mem_map, id, implies_true, and_true, and_assoc,
    true_and]

theorem discoveryTree_all {d : Discovery} : (discoveryTree d).All p ↔ ∀ a ∈ d.addresses, p a := by
  have key : p "value" := plain _ (isPlain_of_chars rfl rfl)
  have finder : (finderTree d.addresses).All p ↔ ∀ a ∈ d.addresses, p a := by
    rw [finderTree, table_all plain (isPlain_of_chars rfl rfl) (finderSlots_plain d.addresses)]
    simp [finderSlots, list_all plain, Element.All, key]
  rw [discoveryTree, table_all plain (isPlain_of_chars rfl rfl) (discoverySlots_plain d)]
  simp [discoverySlots, plain, finder]

/-- What holds of plain strings holds of all in a tree if it does of those of the configuration. -/
theorem referenceTree_all {n : Node} :
    (referenceTree n).All p ↔ (∀ v ∈ n.values, p v) ∧ ∀ a ∈ n.addresses, p a := by
  have exporter (e : MetricExporter) : (exporterTree e).All p :=
    bareBean_all plain (exporter_className_plain e)
  have name : p "beans" := plain _ (isPlain_of_chars rfl rfl)
  have namespaces : ∀ a ∈ beansNamespaces, p a.1 ∧ p a.2 := fun a member =>
    ⟨plain _ (beansNamespaces_plain a member).2.1, plain _ (beansNamespaces_plain a member).2.2⟩
  have around (e : Element) : (beans [e]).All p ↔ e.All p :=
    ⟨fun h => h.2.1, fun h => ⟨⟨name, namespaces⟩, h, trivial⟩⟩
  rw [referenceTree, around, table_all plain (isPlain_of_chars rfl rfl) (nodeSlots_plain n)]
  simp only [nodeSlots, List.forall_mem_cons, List.not_mem_nil, false_imp_iff, Slot.always_all,
    Slot.given_all, Slot.nested_all, Slot.listed_all plain, discoveryTree_all plain,
    storageTree_all plain, plain, wordText_plain, boolText_plain, exporter, Node.values, Node.addresses, List.forall_mem_append,
    List.forall_mem_flatMap, id, implies_true, and_true, true_and]
  constructor
  · rintro ⟨id, discovery, storage⟩
    exact ⟨⟨id, storage⟩, discovery⟩
  · rintro ⟨⟨id, storage⟩, discovery⟩
    exact ⟨id, discovery, storage⟩

end

/-! ## What is read -/

theorem plain_holdable {s : String} (plain : isPlain s = true) : Holdable s := by
  apply List.all_eq_true.mpr
  intro c member
  have printable := List.all_eq_true.mp plain c member
  simp only [isPlainChar, Bool.and_eq_true, decide_eq_true_eq] at printable
  have inside : 32 ≤ c.toNat ∧ c.toNat ≤ 0xd7ff := by omega
  simp [Xml.isXmlChar, inside]

theorem valueRead_fixes : Fixes fun _ => Xml.valueRead := by
  intro _ s plain
  apply Xml.valueRead_eq_self_iff.mpr
  intro c member
  have printable := List.all_eq_true.mp plain c member
  by_contra space
  simp only [Xml.isBreak, Bool.not_eq_false, Bool.or_eq_true, beq_iff_eq] at space
  rcases space with (rfl | rfl) | rfl <;> exact absurd printable (by decide)

/-- What a conforming reader finds in the text of a configuration. -/
def conformingRead? (n : Node) : Option Element :=
  Xml.readConforming? (· == "value") (Format.beans.render n)

theorem conformingRead?_eq (n : Node) :
    conformingRead? n =
      if ∀ s ∈ n.values ++ n.addresses, Holdable s then
        some (referenceTree (n.mapTexts Xml.valueRead Xml.textRead))
      else none := by
  have proper : (referenceTree n).Proper
      { holdsText := (· == "value"), attributeChar := Xml.blankSpace } :=
    referenceTree_proper (fun _ => rfl) n
  have strings : Holdable (Xml.documentText (referenceTree n)) ↔
      ∀ s ∈ n.values ++ n.addresses, Holdable s := by
    rw [Xml.documentText_holdable, referenceTree_all fun _ => plain_holdable, List.forall_mem_append]
  rw [conformingRead?, Format.render, nodeTree_eq, Xml.readConforming?_documentText proper,
    referenceTree_mapTexts valueRead_fixes]
  simp only [strings]

theorem referenceTree_read_iff (n : Node) :
    referenceTree (n.mapTexts Xml.valueRead Xml.textRead) = referenceTree n ↔
      (∀ v ∈ n.values, ∀ c ∈ v.toList, Xml.isBreak c = false) ∧
        ∀ a ∈ n.addresses, '\r' ∉ a.toList := by
  have version : { n.mapTexts Xml.valueRead Xml.textRead with version := n.version } =
      n.mapTexts Xml.valueRead Xml.textRead := rfl
  rw [referenceTree_eq_iff, version, Node.mapTexts_eq_iff]
  simp only [Xml.valueRead_eq_self_iff, Xml.textRead_eq_self_iff]

/-- Every character of a text is one that a document may hold just when those of all strings in the
configuration are. Then it is read with these strings changed as XML prescribes, and so as it was written
just when, besides, no value of a property has white space other than blanks and no address a carriage
return. -/
theorem conforming_reading (n : Node) :
    ((∀ c ∈ (Format.beans.render n).toList, Xml.isXmlChar c = true) ↔
      ∀ s ∈ n.values ++ n.addresses, Holdable s) ∧
    (conformingRead? n =
      if ∀ s ∈ n.values ++ n.addresses, Holdable s then
        some (referenceTree (n.mapTexts Xml.valueRead Xml.textRead))
      else none) ∧
    (conformingRead? n = some (referenceTree n) ↔
      (∀ v ∈ n.values, Holdable v ∧ ∀ c ∈ v.toList, Xml.isBreak c = false) ∧
        ∀ a ∈ n.addresses, Holdable a ∧ '\r' ∉ a.toList) := by
  refine ⟨?_, conformingRead?_eq n, ?_⟩
  · rw [Format.render, nodeTree_eq, List.forall_mem_append,
      ← referenceTree_all fun _ => plain_holdable, ← Xml.documentText_holdable, Holdable,
      List.all_eq_true]
  · rw [conformingRead?_eq]
    by_cases held : ∀ s ∈ n.values ++ n.addresses, Holdable s
    · obtain ⟨values, addresses⟩ := List.forall_mem_append.mp held
      rw [if_pos held, Option.some.injEq, referenceTree_read_iff]
      exact ⟨fun h => ⟨fun v hv => ⟨values v hv, h.1 v hv⟩, fun a ha => ⟨addresses a ha, h.2 a ha⟩⟩,
        fun h => ⟨fun v hv => (h.1 v hv).2, fun a ha => (h.2 a ha).2⟩⟩
    · rw [if_neg held]
      constructor
      · intro h
        cases h
      · intro h
        apply absurd _ held
        exact List.forall_mem_append.mpr ⟨fun v hv => (h.1 v hv).1, fun a ha => (h.2 a ha).1⟩

/-- Valid identifiers that are not read as they were written: a tab becomes a blank, and the text with
another control character is no document. -/
theorem conforming_reading_changes_identifier :
    (({ consistentId := some "a\tb" } : Node).validate = .ok () ∧
      conformingRead? { consistentId := some "a\tb" } =
        some (referenceTree { consistentId := some "a b" }) ∧
      referenceTree { consistentId := some "a b" } ≠ referenceTree { consistentId := some "a\tb" }) ∧
    ({ consistentId := some "a\x01b" } : Node).validate = .ok () ∧
      conformingRead? { consistentId := some "a\x01b" } = none := by
  refine ⟨⟨rfl, ?_, ?_⟩, rfl, ?_⟩
  · rw [conformingRead?_eq, if_pos (by decide)]
    rfl
  · rw [ne_eq, referenceTree_eq_iff]
    decide
  · rw [conformingRead?_eq, if_neg (by decide)]

end Render

end ClusterHarness
