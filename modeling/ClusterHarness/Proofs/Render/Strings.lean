import ClusterHarness.Proofs.Render.Reference
import ClusterHarness.Proofs.Xml.ReadBack

/-! # The strings of a configuration

What the strings of a configuration are has no bearing on the elements of its tree: a change of them
changes scalar texts alone. Scalars that are no strings are plain, and so are the names of beans and
properties.
-/

namespace ClusterHarness

namespace Config

def Region.mapTexts (value : String → String) (r : Region) : Region := { r with name := value r.name }

def Storage.mapTexts (value : String → String) (s : Storage) : Storage :=
  { s with
    defaultRegion := s.defaultRegion.mapTexts value
    regions := s.regions.map (Region.mapTexts value)
    walPath := s.walPath.map value
    walArchivePath := s.walArchivePath.map value
    cdcWalPath := s.cdcWalPath.map value }

def Discovery.mapTexts (text : String → String) (d : Discovery) : Discovery :=
  { d with addresses := d.addresses.map text }

/-- Changes the strings that are written as values of properties, and the addresses. -/
def Node.mapTexts (value text : String → String) (n : Node) : Node :=
  { n with
    consistentId := n.consistentId.map value
    discovery := n.discovery.map (Discovery.mapTexts text)
    storage := n.storage.map (Storage.mapTexts value) }

end Config

namespace Render

open Config
open Xml (Element Convention)

/-! ## Plain strings -/

/-- The printable characters of ASCII. -/
def isPlainChar (c : Char) : Bool := 32 ≤ c.toNat && c.toNat ≤ 126

def isPlain (s : String) : Bool := s.toList.all isPlainChar

/-- A literal stands for its characters, so that they need not be decoded. -/
theorem isPlain_of_chars {s : String} {cs : List Char} (literal : s = String.ofList cs)
    (plain : cs.all isPlainChar = true) : isPlain s = true := by
  rw [isPlain, literal, String.toList_ofList, plain]

theorem isPlain_append {s t : String} (first : isPlain s = true) (second : isPlain t = true) :
    isPlain (s ++ t) = true := by
  rw [isPlain] at *
  rw [String.toList_append, List.all_append, first, second]
  rfl

theorem all_isPlain_cons {s : String} {cs : List Char} {ss : List String}
    (literal : s = String.ofList cs) (plain : cs.all isPlainChar = true)
    (rest : ss.all isPlain = true) : (s :: ss).all isPlain = true := by
  rw [List.all_cons, isPlain_of_chars literal plain, rest]
  rfl

@[simp] theorem boolText_plain (b : Bool) : isPlain (Text.boolText b) = true := by
  cases b <;> exact isPlain_of_chars rfl rfl

theorem natText_plain (n : Nat) : isPlain (Text.natText n) = true := by
  rw [isPlain, Text.natText, String.toList_ofList, List.all_eq_true]
  intro c member
  have digit := Text.isDigit_of_mem_decimal member
  rw [Text.isDigit, Text.digitValue?] at digit
  split at digit
  · rename_i bounds
    simp only [isPlainChar, Bool.and_eq_true, decide_eq_true_eq] at bounds ⊢
    omega
  · cases digit

theorem intText_plain (n : Int) : isPlain (Text.intText n) = true := by
  cases n with
  | ofNat n => exact natText_plain n
  | negSucc n => exact isPlain_append (isPlain_of_chars rfl rfl) (natText_plain (n + 1))

@[simp] theorem wordText_plain (n : UInt64) : isPlain (wordText n) = true := natText_plain n.toNat

@[simp] theorem uint32Text_plain (n : UInt32) : isPlain (uint32Text n) = true := natText_plain n.toNat

@[simp] theorem uint16Text_plain (n : UInt16) : isPlain (uint16Text n) = true := natText_plain n.toNat

@[simp] theorem int32Text_plain (n : Int32) : isPlain (int32Text n) = true := intText_plain n.toInt

@[simp] theorem walMode_label_plain (mode : WalMode) : isPlain mode.label = true := by
  cases mode <;> exact isPlain_of_chars rfl rfl

@[simp] theorem compression_label_plain (c : Compression) : isPlain c.label = true := by
  cases c <;> exact isPlain_of_chars rfl rfl

theorem warmUp_className_plain (w : WarmUp) : isPlain w.className = true := by
  cases w <;> exact isPlain_of_chars rfl rfl

theorem exporter_className_plain (e : MetricExporter) : isPlain e.className = true := by
  cases e <;> exact isPlain_of_chars rfl rfl

/-! ## Changes of texts -/

section

variable {value : String → String → String} {text : String → String}

/-- Whether a change leaves plain strings alone, except the values of properties. -/
def KeepsNames (value : String → String → String) : Prop :=
  ∀ name s, name ≠ "value" → isPlain s = true → value name s = s

def Slot.mapTexts (value : String → String → String) (text : String → String) (slot : Slot) : Slot :=
  ⟨slot.name, slot.content.map fun
    | .scalar s => .scalar (value "value" s)
    | .element e => .element (e.mapTexts value text)⟩

theorem mapValues_plain (keeps : KeepsNames value) {attributes : List (String × String)}
    (plain : ∀ a ∈ attributes, a.1 ≠ "value" ∧ isPlain a.2 = true) :
    Element.mapValues value attributes = attributes := by
  refine (List.map_congr_left fun a member => ?_).trans (List.map_id attributes)
  rw [keeps a.1 a.2 (plain a member).1 (plain a member).2]
  rfl

theorem property_mapTexts (keeps : KeepsNames value) {name : String} (plain : isPlain name = true)
    (s : String) : (property name s).mapTexts value text = property name (value "value" s) := by
  simp [property, Element.mapTexts, Element.mapValues, keeps "name" name (by decide) plain]

theorem holder_mapTexts (keeps : KeepsNames value) {name : String} (plain : isPlain name = true)
    (e : Element) : (holder name e).mapTexts value text = holder name (e.mapTexts value text) := by
  simp [holder, Element.mapTexts, Element.mapValues, Element.mapAllTexts,
    keeps "name" name (by decide) plain]

theorem bareBean_mapTexts (keeps : KeepsNames value) {className : String}
    (plain : isPlain className = true) :
    (bareBean className).mapTexts value text = bareBean className := by
  simp [bareBean, Element.mapTexts, Element.mapValues, keeps "class" className (by decide) plain]

theorem list_mapTexts (es : List Element) :
    (list es).mapTexts value text = list (es.map (Element.mapTexts value text)) := by
  simp [list, Element.mapTexts, Element.mapValues, Element.mapAllTexts_eq_map]

theorem Slot.element?_mapTexts (keeps : KeepsNames value) {slot : Slot}
    (plain : isPlain slot.name = true) :
    slot.element?.map (Element.mapTexts value text) = (slot.mapTexts value text).element? := by
  obtain ⟨name, content⟩ := slot
  rcases content with _ | content
  · rfl
  · cases content with
    | scalar s => exact congrArg some (property_mapTexts keeps plain s)
    | element e => exact congrArg some (holder_mapTexts keeps plain e)

theorem table_mapTexts (keeps : KeepsNames value) {className : String}
    (plain : isPlain className = true) {slots : List Slot}
    (names : (slots.map Slot.name).all isPlain = true) :
    (table className slots).mapTexts value text =
      table className (slots.map (Slot.mapTexts value text)) := by
  have properties : (slots.filterMap Slot.element?).map (Element.mapTexts value text) =
      (slots.map (Slot.mapTexts value text)).filterMap Slot.element? := by
    induction slots with
    | nil => rfl
    | cons slot slots ih =>
        rw [List.map_cons, List.all_cons, Bool.and_eq_true] at names
        rw [List.map_cons, List.filterMap_cons, List.filterMap_cons, ← Slot.element?_mapTexts keeps names.1]
        cases slot.element? with
        | none => exact ih names.2
        | some e => exact congrArg _ (ih names.2)
  simp [table, bean, Element.mapTexts, Element.mapValues, Element.mapAllTexts_eq_map,
    keeps "class" className (by decide) plain, properties]

namespace Slot

variable {α β : Type} (name : String)

@[simp] theorem always_mapTexts (s : String) :
    (always name s).mapTexts value text = always name (value "value" s) := rfl

@[simp] theorem holding_mapTexts (e : Element) :
    (holding name e).mapTexts value text = holding name (e.mapTexts value text) := rfl

@[simp] theorem given_mapTexts (show_ : α → String) (a : Option α) :
    (given name show_ a).mapTexts value text = given name (fun a => value "value" (show_ a)) a := by
  cases a <;> rfl

@[simp] theorem nested_mapTexts (tree : α → Element) (a : Option α) :
    (nested name tree a).mapTexts value text =
      nested name (fun a => (tree a).mapTexts value text) a := by
  cases a <;> rfl

@[simp] theorem listed_mapTexts (tree : α → Element) (as : List α) :
    (listed name tree as).mapTexts value text =
      listed name (fun a => (tree a).mapTexts value text) as := by
  cases as with
  | nil => rfl
  | cons a as => simp [listed, Slot.mapTexts, list_mapTexts, Function.comp_def]

@[simp] theorem given_map (f : α → β) (show_ : β → String) (a : Option α) :
    given name show_ (a.map f) = given name (fun a => show_ (f a)) a := by
  cases a <;> rfl

@[simp] theorem nested_map (f : α → β) (tree : β → Element) (a : Option α) :
    nested name tree (a.map f) = nested name (fun a => tree (f a)) a := by
  cases a <;> rfl

@[simp] theorem listed_map (f : α → β) (tree : β → Element) (as : List α) :
    listed name tree (as.map f) = listed name (fun a => tree (f a)) as := by
  cases as with
  | nil => rfl
  | cons a as => simp [listed, Function.comp_def]

end Slot

theorem warmUpTree_mapTexts (keeps : KeepsNames value) (w : WarmUp) :
    (warmUpTree w).mapTexts value text = warmUpTree w :=
  bareBean_mapTexts keeps (warmUp_className_plain w)

theorem exporterTree_mapTexts (keeps : KeepsNames value) (e : MetricExporter) :
    (exporterTree e).mapTexts value text = exporterTree e :=
  bareBean_mapTexts keeps (exporter_className_plain e)

theorem finderSlots_plain (addresses : List String) :
    ((finderSlots addresses).map Slot.name).all isPlain = true :=
  all_isPlain_cons rfl rfl rfl

theorem finderTree_mapTexts (keeps : KeepsNames value) (addresses : List String) :
    (finderTree addresses).mapTexts value text = finderTree (addresses.map text) := by
  rw [finderTree, table_mapTexts keeps (isPlain_of_chars rfl rfl) (finderSlots_plain addresses)]
  simp [finderTree, finderSlots, list_mapTexts, Element.mapTexts, Function.comp_def]

theorem regionSlots_plain (r : Region) : ((regionSlots r).map Slot.name).all isPlain = true := by
  repeat refine all_isPlain_cons rfl rfl ?_
  rfl

theorem storageSlots_plain (s : Storage) : ((storageSlots s).map Slot.name).all isPlain = true := by
  repeat refine all_isPlain_cons rfl rfl ?_
  rfl

theorem discoverySlots_plain (d : Discovery) : ((discoverySlots d).map Slot.name).all isPlain = true := by
  repeat refine all_isPlain_cons rfl rfl ?_
  rfl

theorem nodeSlots_plain (n : Node) : ((nodeSlots n).map Slot.name).all isPlain = true := by
  repeat refine all_isPlain_cons rfl rfl ?_
  rfl

def beansNamespaces : List (String × String) :=
  [("xmlns", "http://www.springframework.org/schema/beans"),
   ("xmlns:xsi", "http://www.w3.org/2001/XMLSchema-instance"),
   ("xsi:schemaLocation", "http://www.springframework.org/schema/beans "
     ++ "http://www.springframework.org/schema/beans/spring-beans.xsd")]

theorem beansNamespaces_plain :
    ∀ a ∈ beansNamespaces, a.1 ≠ "value" ∧ isPlain a.1 = true ∧ isPlain a.2 = true := by
  simp only [beansNamespaces, List.forall_mem_cons]
  exact ⟨⟨by decide, isPlain_of_chars rfl rfl, isPlain_of_chars rfl rfl⟩,
    ⟨by decide, isPlain_of_chars rfl rfl, isPlain_of_chars rfl rfl⟩,
    ⟨by decide, isPlain_of_chars rfl rfl,
      isPlain_append (isPlain_of_chars rfl rfl) (isPlain_of_chars rfl rfl)⟩,
    List.forall_mem_nil _⟩

theorem beans_mapTexts (keeps : KeepsNames value) (e : Element) :
    (beans [e]).mapTexts value text = beans [e.mapTexts value text] := by
  change Element.node "beans" (Element.mapValues value beansNamespaces) _ = _
  rw [mapValues_plain keeps fun a member =>
    ⟨(beansNamespaces_plain a member).1, (beansNamespaces_plain a member).2.2⟩]
  rfl

section

variable (keeps : KeepsNames value)
include keeps

theorem mapTexts_regionTree (r : Region) :
    (regionTree r).mapTexts value text =
      table "org.apache.ignite.configuration.DataRegionConfiguration"
        ((regionSlots r).map (Slot.mapTexts value text)) :=
  table_mapTexts keeps (isPlain_of_chars rfl rfl) (regionSlots_plain r)

theorem mapTexts_storageTree (s : Storage) :
    (storageTree s).mapTexts value text =
      table "org.apache.ignite.configuration.DataStorageConfiguration"
        ((storageSlots s).map (Slot.mapTexts value text)) :=
  table_mapTexts keeps (isPlain_of_chars rfl rfl) (storageSlots_plain s)

theorem mapTexts_discoveryTree (d : Discovery) :
    (discoveryTree d).mapTexts value text =
      table "org.apache.ignite.spi.discovery.tcp.TcpDiscoverySpi"
        ((discoverySlots d).map (Slot.mapTexts value text)) :=
  table_mapTexts keeps (isPlain_of_chars rfl rfl) (discoverySlots_plain d)

theorem mapTexts_referenceTree (n : Node) :
    (referenceTree n).mapTexts value text =
      beans [table "org.apache.ignite.configuration.IgniteConfiguration"
        ((nodeSlots n).map (Slot.mapTexts value text))] := by
  rw [referenceTree, beans_mapTexts keeps,
    table_mapTexts keeps (isPlain_of_chars rfl rfl) (nodeSlots_plain n)]

end

/-- Whether a change leaves plain strings alone. -/
def Fixes (value : String → String → String) : Prop :=
  ∀ name s, isPlain s = true → value name s = s

theorem Fixes.keepsNames (fixes : Fixes value) : KeepsNames value :=
  fun name s _ plain => fixes name s plain

theorem regionTree_mapTexts (fixes : Fixes value) (r : Region) :
    (regionTree r).mapTexts value text = regionTree (r.mapTexts (value "value")) := by
  rw [mapTexts_regionTree fixes.keepsNames]
  simp [regionTree, regionSlots, Region.mapTexts, fixes "value", warmUpTree_mapTexts fixes.keepsNames]

theorem storageTree_mapTexts (fixes : Fixes value) (s : Storage) :
    (storageTree s).mapTexts value text = storageTree (s.mapTexts (value "value")) := by
  rw [mapTexts_storageTree fixes.keepsNames]
  simp [storageTree, storageSlots, Storage.mapTexts, fixes "value",
    warmUpTree_mapTexts fixes.keepsNames, regionTree_mapTexts fixes]

theorem discoveryTree_mapTexts (fixes : Fixes value) (d : Discovery) :
    (discoveryTree d).mapTexts value text = discoveryTree (d.mapTexts text) := by
  rw [mapTexts_discoveryTree fixes.keepsNames]
  simp [discoveryTree, discoverySlots, Discovery.mapTexts, fixes "value",
    finderTree_mapTexts fixes.keepsNames]

/-- A change of texts is one of the strings of a configuration, if it leaves plain ones alone. -/
theorem referenceTree_mapTexts (fixes : Fixes value) (n : Node) :
    (referenceTree n).mapTexts value text = referenceTree (n.mapTexts (value "value") text) := by
  rw [mapTexts_referenceTree fixes.keepsNames]
  simp [referenceTree, nodeSlots, Node.mapTexts, fixes "value",
    exporterTree_mapTexts fixes.keepsNames, discoveryTree_mapTexts fixes, storageTree_mapTexts fixes]

end

/-! ## Outlines -/

/-- A tree without its scalar texts. -/
def outline : Element → Element :=
  Element.mapTexts (fun name s => if name = "value" then "" else s) fun _ => ""

theorem outline_keepsNames : KeepsNames fun name s => if name = "value" then "" else s :=
  fun _ _ other _ => if_neg other

section

variable (value text : String → String)

theorem regionTree_outline (r : Region) :
    outline (regionTree (r.mapTexts value)) = outline (regionTree r) := by
  unfold outline
  rw [mapTexts_regionTree outline_keepsNames, mapTexts_regionTree outline_keepsNames]
  simp [regionSlots, Region.mapTexts]

theorem storageTree_outline (s : Storage) :
    outline (storageTree (s.mapTexts value)) = outline (storageTree s) := by
  have region := regionTree_outline value
  unfold outline at region
  unfold outline
  rw [mapTexts_storageTree outline_keepsNames, mapTexts_storageTree outline_keepsNames]
  simp [storageSlots, Storage.mapTexts, region]

theorem discoveryTree_outline (d : Discovery) :
    outline (discoveryTree (d.mapTexts text)) = outline (discoveryTree d) := by
  unfold outline
  rw [mapTexts_discoveryTree outline_keepsNames, mapTexts_discoveryTree outline_keepsNames]
  simp [discoverySlots, Discovery.mapTexts, finderTree_mapTexts outline_keepsNames, Function.comp_def]

theorem referenceTree_outline (n : Node) :
    outline (referenceTree (n.mapTexts value text)) = outline (referenceTree n) := by
  have discovery := discoveryTree_outline text
  have storage := storageTree_outline value
  unfold outline at discovery storage
  unfold outline
  rw [mapTexts_referenceTree outline_keepsNames, mapTexts_referenceTree outline_keepsNames]
  simp [nodeSlots, Node.mapTexts, discovery, storage]

end

end Render

end ClusterHarness
