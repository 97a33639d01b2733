import ClusterHarness.Proofs.Render.Strings
import ClusterHarness.Render.Artifact

/-! # Beans that are read back

A reader that takes characters as they stand finds the tree of the configuration in its text, whatever
the strings in it are.
-/

namespace ClusterHarness.Render

open Config
open Xml (Element Convention)

/-! ## Trees that a reader takes apart -/

section

variable {conv : Convention}

theorem attributes_proper {attributes : List (String × String)} (names : List String)
    (given : attributes.map Prod.fst = names) (proper : names.all Xml.isName = true)
    (distinct : names.Nodup) : Element.ProperAttributes attributes := by
  constructor
  · intro a member
    exact List.all_eq_true.mp proper a.1 (given ▸ List.mem_map_of_mem member)
  · exact given ▸ distinct

/-- Whether the elements that a property holds are proper. -/
def Slot.Proper (conv : Convention) (slot : Slot) : Prop :=
  ∀ e, slot.content = some (.element e) → e.Proper conv

/-- The convention of bean definitions: only values have a text. -/
def ValuesHoldText (conv : Convention) : Prop := ∀ name, conv.holdsText name = (name == "value")

variable (texts : ValuesHoldText conv)
include texts

theorem list_proper {es : List Element} (inside : ∀ e ∈ es, e.Proper conv) : (list es).Proper conv :=
  ⟨⟨by decide, by rw [texts]; rfl⟩, attributes_proper [] rfl rfl List.nodup_nil,
    Element.allProper_iff.mpr inside⟩

theorem Slot.element_proper {slot : Slot} (proper : slot.Proper conv) {e : Element}
    (h : slot.element? = some e) : e.Proper conv := by
  obtain ⟨content, held, rfl⟩ := Option.map_eq_some_iff.mp h
  cases content with
  | scalar text =>
      exact ⟨by decide, attributes_proper ["name", "value"] rfl (by decide) (by decide)⟩
  | element e =>
      exact ⟨⟨by decide, by rw [texts]; rfl⟩,
        attributes_proper ["name"] rfl (by decide) (by decide), proper e held, trivial⟩

theorem table_proper (className : String) {slots : List Slot}
    (inside : ∀ slot ∈ slots, slot.Proper conv) : (table className slots).Proper conv := by
  refine ⟨⟨by decide, by rw [texts]; rfl⟩,
    attributes_proper ["class"] rfl (by decide) (by decide), ?_⟩
  apply Element.allProper_iff.mpr
  intro e member
  obtain ⟨slot, there, written⟩ := List.mem_filterMap.mp member
  exact Slot.element_proper texts (inside slot there) written

omit texts in
theorem bareBean_proper (className : String) : (bareBean className).Proper conv :=
  ⟨by decide, attributes_proper ["class"] rfl (by decide) (by decide)⟩

namespace Slot

variable {α : Type} (name : String)

omit texts

theorem always_proper (text : String) : (always name text).Proper conv := nofun

theorem holding_proper {e : Element} (h : e.Proper conv) : (holding name e).Proper conv := by
  rintro _ ⟨⟩
  exact h

theorem given_proper (show_ : α → String) (value : Option α) : (given name show_ value).Proper conv := by
  intro e held
  cases value <;> cases held

theorem nested_proper {tree : α → Element} (h : ∀ a, (tree a).Proper conv) (value : Option α) :
    (nested name tree value).Proper conv := by
  intro e held
  cases value with
  | none => cases held
  | some a =>
      cases held
      exact h a

include texts

theorem listed_proper {tree : α → Element} (h : ∀ a, (tree a).Proper conv) (items : List α) :
    (listed name tree items).Proper conv := by
  intro e held
  cases items with
  | nil => cases held
  | cons a as =>
      cases held
      apply list_proper texts
      intro e member
      obtain ⟨item, -, rfl⟩ := List.mem_map.mp member
      exact h item

end Slot

omit texts in
theorem warmUpTree_proper (w : WarmUp) : (warmUpTree w).Proper conv := bareBean_proper w.className

omit texts in
theorem exporterTree_proper (e : MetricExporter) : (exporterTree e).Proper conv :=
  bareBean_proper e.className

theorem regionTree_proper (r : Region) : (regionTree r).Proper conv := by
  apply table_proper texts
  simp [regionSlots, Slot.always_proper, Slot.given_proper, Slot.nested_proper _ warmUpTree_proper]

theorem storageTree_proper (s : Storage) : (storageTree s).Proper conv := by
  have region := regionTree_proper texts
  apply table_proper texts
  simp [storageSlots, Slot.always_proper, Slot.given_proper, Slot.nested_proper _ warmUpTree_proper,
    Slot.holding_proper _ (region s.defaultRegion), Slot.listed_proper texts _ region]

theorem discoveryTree_proper (d : Discovery) : (discoveryTree d).Proper conv := by
  have leaves : (list (d.addresses.map (Element.leaf "value"))).Proper conv := by
    apply list_proper texts
    intro e member
    obtain ⟨address, -, rfl⟩ := List.mem_map.mp member
    exact ⟨by decide, texts "value"⟩
  have finder : (finderTree d.addresses).Proper conv := by
    apply table_proper texts
    simp [finderSlots, Slot.holding_proper _ leaves]
  apply table_proper texts
  simp [discoverySlots, Slot.given_proper, Slot.holding_proper _ finder]

theorem referenceTree_proper (n : Node) : (referenceTree n).Proper conv := by
  have node : (table "org.apache.ignite.configuration.IgniteConfiguration" (nodeSlots n)).Proper
      conv := by
    apply table_proper texts
    simp [nodeSlots, Slot.always_proper, Slot.given_proper,
      Slot.listed_proper texts _ exporterTree_proper,
      Slot.nested_proper _ (discoveryTree_proper texts), Slot.nested_proper _ (storageTree_proper texts)]
  exact ⟨⟨by decide, by rw [texts]; rfl⟩,
    attributes_proper ["xmlns", "xmlns:xsi", "xsi:schemaLocation"] rfl (by decide) (by decide), node,
    trivial⟩

end

/-! ## Configurations -/

/-- Only values hold a text, and every character is taken as it stands. -/
def literally : Convention := { holdsText := (· == "value"), attributeChar := id }

theorem read_render (n : Node) :
    literally.read? (Format.beans.render n) = some (referenceTree n) := by
  have proper : (referenceTree n).Proper literally := referenceTree_proper (fun _ => rfl) n
  have same : literally.readValue = fun _ => id := by
    funext name s
    exact (congrArg String.ofList (List.map_id s.toList)).trans (String.ofList_toList)
  rw [Format.render, nodeTree_eq, Convention.read?_documentText (fun _ _ => rfl) proper, same,
    Element.mapTexts_id]

/-- What is read back is the tree of the configuration. Its outline is that of the configuration without
any of its strings, and only the version is not told by it. -/
theorem beans_are_read_back (n : Node) :
    literally.read? (Format.beans.render n) = some (referenceTree n) ∧
      outline (referenceTree n) = outline (referenceTree (n.mapTexts (fun _ => "") fun _ => "")) ∧
      ∀ m, Format.beans.render m = Format.beans.render n ↔ { m with version := n.version } = n := by
  refine ⟨read_render n, (referenceTree_outline _ _ n).symm, ?_⟩
  intro m
  rw [← referenceTree_eq_iff]
  constructor
  · intro same
    have read := read_render m
    rw [same, read_render n] at read
    exact (Option.some.inj read).symm
  · intro same
    rw [Format.render, Format.render, nodeTree_eq, nodeTree_eq, same]

end ClusterHarness.Render
