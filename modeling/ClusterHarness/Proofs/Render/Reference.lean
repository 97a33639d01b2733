import ClusterHarness.Proofs.Text.Numeral
import ClusterHarness.Render.Beans
import Mathlib.Data.List.Nodup

/-! # The tree of a configuration

Each bean is a table of its properties in a fixed order, with those left out that hold nothing. The
names in a table are all different, so that a bean tells what each of its properties holds.
-/

namespace ClusterHarness.Render

open Config
open Xml (Element)

/-- What a property holds: a scalar as text, or another element. -/
inductive Content where
  | scalar (text : String)
  | element (e : Element)

/-- A property of a bean, which is there when it holds something. -/
structure Slot where
  name : String
  content : Option Content

namespace Slot

def always (name text : String) : Slot := ⟨name, some (.scalar text)⟩

def holding (name : String) (e : Element) : Slot := ⟨name, some (.element e)⟩

def given (name : String) (show_ : α → String) (value : Option α) : Slot :=
  ⟨name, value.map fun a => .scalar (show_ a)⟩

def nested (name : String) (tree : α → Element) (value : Option α) : Slot :=
  ⟨name, value.map fun a => .element (tree a)⟩

/-- A property with one entry for each item, if there are any. -/
def listed (name : String) (tree : α → Element) (items : List α) : Slot :=
  ⟨name, if items.isEmpty then none else some (.element (list (items.map tree)))⟩

def element? (slot : Slot) : Option Element :=
  slot.content.map fun
    | .scalar text => property slot.name text
    | .element e => holder slot.name e

variable (name : String)

@[simp] theorem always_name (text : String) : (always name text).name = name := rfl

@[simp] theorem holding_name (e : Element) : (holding name e).name = name := rfl

@[simp] theorem given_name (show_ : α → String) (value : Option α) :
    (given name show_ value).name = name := rfl

@[simp] theorem nested_name (tree : α → Element) (value : Option α) :
    (nested name tree value).name = name := rfl

@[simp] theorem listed_name (tree : α → Element) (items : List α) :
    (listed name tree items).name = name := rfl

end Slot

def table (className : String) (slots : List Slot) : Element :=
  bean className (slots.filterMap Slot.element?)

def warmUpTree (w : WarmUp) : Element := bareBean w.className

def exporterTree (e : MetricExporter) : Element := bareBean e.className

def regionSlots (r : Region) : List Slot :=
  [.always "name" r.name,
   .always "persistenceEnabled" (Text.boolText r.persistenceEnabled),
   .always "initialSize" (wordText r.initialSize),
   .always "maxSize" (wordText r.maxSize),
   .always "metricsEnabled" (Text.boolText r.metricsEnabled),
   .given "metricsRateTimeInterval" wordText r.metricsRateTimeInterval,
   .given "checkpointPageBufferSize" wordText r.checkpointPageBufferSize,
   .given "cdcEnabled" Text.boolText r.cdcEnabled,
   .given "lazyMemoryAllocation" Text.boolText r.lazyMemoryAllocation,
   .nested "warmUpConfiguration" warmUpTree r.warmUp]

def regionTree (r : Region) : Element :=
  table "org.apache.ignite.configuration.DataRegionConfiguration" (regionSlots r)

def uint32Text (n : UInt32) : String := Text.natText n.toNat

def uint16Text (n : UInt16) : String := Text.natText n.toNat

def int32Text (n : Int32) : String := Text.intText n.toInt

def storageSlots (s : Storage) : List Slot :=
  [.holding "defaultDataRegionConfiguration" (regionTree s.defaultRegion),
   .listed "dataRegionConfigurations" regionTree s.regions,
   .given "pageSize" uint32Text s.pageSize,
   .given "walMode" WalMode.label s.walMode,
   .given "walPath" id s.walPath,
   .given "walArchivePath" id s.walArchivePath,
   .given "cdcWalPath" id s.cdcWalPath,
   .given "walSegmentSize" wordText s.walSegmentSize,
   .given "walBufferSize" wordText s.walBufferSize,
   .given "walHistorySize" uint32Text s.walHistorySize,
   .given "maxWalArchiveSize" wordText s.maxWalArchiveSize,
   .given "walCompactionEnabled" Text.boolText s.walCompactionEnabled,
   .given "writeRecoveryDataOnCheckpoint" Text.boolText s.writeRecoveryDataOnCheckpoint,
   .given "walForceArchiveTimeout" wordText s.walForceArchiveTimeout,
   .given "checkpointFrequency" wordText s.checkpointFrequency,
   .given "metricsRateTimeInterval" wordText s.metricsRateTimeInterval,
   .given "walPageCompression" Compression.label s.walPageCompression,
   .given "walPageCompressionLevel" int32Text s.walPageCompressionLevel,
   .given "checkpointRecoveryDataCompression" Compression.label s.checkpointRecoveryDataCompression,
   .given "checkpointRecoveryDataCompressionLevel" int32Text s.checkpointRecoveryDataCompressionLevel,
   .always "metricsEnabled" (Text.boolText s.metricsEnabled),
   .nested "defaultWarmUpConfiguration" warmUpTree s.defaultWarmUp]

def storageTree (s : Storage) : Element :=
  table "org.apache.ignite.configuration.DataStorageConfiguration" (storageSlots s)

/-- The addresses have a list of their own, even when there are none. -/
def finderSlots (addresses : List String) : List Slot :=
  [.holding "addresses" (list (addresses.map (Element.leaf "value")))]

def finderTree (addresses : List String) : Element :=
  table "org.apache.ignite.spi.discovery.tcp.ipfinder.vm.TcpDiscoveryVmIpFinder"
    (finderSlots addresses)

def discoverySlots (d : Discovery) : List Slot :=
  [.given "localPort" uint16Text d.localPort,
   .given "localPortRange" uint16Text d.localPortRange,
   .holding "ipFinder" (finderTree d.addresses)]

def discoveryTree (d : Discovery) : Element :=
  table "org.apache.ignite.spi.discovery.tcp.TcpDiscoverySpi" (discoverySlots d)

def nodeSlots (n : Node) : List Slot :=
  [.always "clientMode" (Text.boolText n.clientMode),
   .given "consistentId" id n.consistentId,
   .always "peerClassLoadingEnabled" (Text.boolText n.peerClassLoadingEnabled),
   .always "failureDetectionTimeout" (wordText n.failureDetectionTimeout),
   .listed "metricExporterSpi" exporterTree n.metricExporters,
   .nested "discoverySpi" discoveryTree n.discovery,
   .nested "dataStorageConfiguration" storageTree n.storage]

/-- The tree of a configuration: its bean alone, in the element that holds beans. -/
def referenceTree (n : Node) : Element :=
  beans [table "org.apache.ignite.configuration.IgniteConfiguration" (nodeSlots n)]

/-! ## The tree that is written -/

theorem filterMap_always (name text : String) (slots : List Slot) :
    (Slot.always name text :: slots).filterMap Slot.element? =
      property name text :: slots.filterMap Slot.element? := rfl

theorem filterMap_holding (name : String) (e : Element) (slots : List Slot) :
    (Slot.holding name e :: slots).filterMap Slot.element? =
      holder name e :: slots.filterMap Slot.element? := rfl

theorem filterMap_given (name : String) (show_ : α → String) (value : Option α) (slots : List Slot) :
    (Slot.given name show_ value :: slots).filterMap Slot.element? =
      optional name show_ value ++ slots.filterMap Slot.element? := by
  cases value <;> rfl

theorem filterMap_nested (name : String) (tree : α → Element) (value : Option α) (slots : List Slot) :
    (Slot.nested name tree value :: slots).filterMap Slot.element? =
      (value.map fun a => holder name (tree a)).toList ++ slots.filterMap Slot.element? := by
  cases value <;> rfl

theorem filterMap_listed (name : String) (tree : α → Element) (items : List α) (slots : List Slot) :
    (Slot.listed name tree items :: slots).filterMap Slot.element? =
      (if items.isEmpty then [] else [holder name (list (items.map tree))]) ++
        slots.filterMap Slot.element? := by
  cases items <;> rfl

theorem regionBean_eq : regionBean = regionTree := by
  funext r
  simp only [regionTree, regionSlots, table, filterMap_always, filterMap_given, filterMap_nested,
    List.filterMap_nil, regionBean, List.append_assoc, List.cons_append, List.nil_append,
    List.append_nil]
  rfl

theorem storageBean_eq : storageBean = storageTree := by
  funext s
  simp only [storageTree, storageSlots, table, filterMap_always, filterMap_holding, filterMap_given,
    filterMap_nested, filterMap_listed, List.filterMap_nil, storageBean, regionBean_eq, regionsProperty,
    List.append_assoc, List.cons_append, List.nil_append, List.append_nil]
  rfl

theorem discoveryBean_eq : discoveryBean = discoveryTree := by
  funext d
  simp only [discoveryTree, discoverySlots, table, filterMap_given, filterMap_holding,
    List.filterMap_nil, discoveryBean, List.append_assoc]
  rfl

/-- The tree that is written is the reference. -/
theorem nodeTree_eq (n : Node) : nodeTree n = referenceTree n := by
  simp only [nodeTree, referenceTree, nodeSlots, table, filterMap_always, filterMap_given,
    filterMap_nested, filterMap_listed, List.filterMap_nil, nodeBean, exportersProperty,
    storageBean_eq, discoveryBean_eq, List.append_assoc, List.cons_append, List.nil_append,
    List.append_nil]
  rfl

/-! ## What a table tells -/

namespace Slot

/-- The name of a property. -/
def nameOf : Element → String
  | .bare _ ((_, name) :: _) => name
  | .node _ ((_, name) :: _) _ => name
  | _ => ""

theorem nameOf_element {slot : Slot} {e : Element} (h : slot.element? = some e) :
    nameOf e = slot.name := by
  obtain ⟨content, -, rfl⟩ := Option.map_eq_some_iff.mp h
  cases content <;> rfl

theorem element?_eq_none_iff {slot : Slot} : slot.element? = none ↔ slot.content = none :=
  Option.map_eq_none_iff

theorem eq_of_element? {s t : Slot} (name : s.name = t.name) (same : s.element? = t.element?) :
    s = t := by
  obtain ⟨name', a⟩ := s
  obtain ⟨_, b⟩ := t
  cases name
  have content : a = b := by
    cases a with
    | none => exact (element?_eq_none_iff.mp same.symm).symm
    | some a =>
        cases b with
        | none => exact element?_eq_none_iff.mp same
        | some b => cases a <;> cases b <;> simp_all [element?, property, holder]
  rw [content]

/-- Two tables of the same names, all different, are written alike only if they are the same. -/
theorem table_injective {ss ts : List Slot} (names : ss.map Slot.name = ts.map Slot.name)
    (distinct : (ss.map Slot.name).Nodup)
    (same : ss.filterMap element? = ts.filterMap element?) : ss = ts := by
  induction ss generalizing ts with
  | nil => exact (List.map_eq_nil_iff.mp names.symm).symm
  | cons s ss ih =>
      cases ts with
      | nil => cases names
      | cons t ts =>
          obtain ⟨name, names⟩ := List.cons.inj names
          rw [List.map_cons, List.nodup_cons] at distinct
          -- A property of the head cannot stand for one of the tail, since its name is another.
          have apart : ∀ us : List Slot, us.map Slot.name = ss.map Slot.name → ∀ u e,
              Slot.element? u = some e → u.name = s.name → e ∉ us.filterMap element? := by
            intro us usNames u e written uName member
            obtain ⟨v, inside, held⟩ := List.mem_filterMap.mp member
            apply distinct.1
            rw [← usNames, ← uName, ← nameOf_element written, nameOf_element held]
            exact List.mem_map_of_mem inside
          cases hs : s.element? with
          | none =>
              cases ht : t.element? with
              | none =>
                  rw [List.filterMap_cons_none hs, List.filterMap_cons_none ht] at same
                  rw [eq_of_element? name (hs.trans ht.symm), ih names distinct.2 same]
              | some e =>
                  rw [List.filterMap_cons_none hs, List.filterMap_cons_some ht] at same
                  exact absurd (same ▸ List.mem_cons_self) (apart ss rfl t e ht name.symm)
          | some e =>
              cases ht : t.element? with
              | none =>
                  rw [List.filterMap_cons_some hs, List.filterMap_cons_none ht] at same
                  exact absurd (same ▸ List.mem_cons_self) (apart ts names.symm s e hs rfl)
              | some e' =>
                  rw [List.filterMap_cons_some hs, List.filterMap_cons_some ht] at same
                  obtain ⟨first, rest⟩ := List.cons.inj same
                  rw [eq_of_element? name (by rw [hs, ht, first]), ih names distinct.2 rest]

end Slot

/-! ## What a tree tells -/

theorem wordText_injective : Function.Injective wordText :=
  fun _ _ h => UInt64.toNat_inj.mp (Text.natText_injective h)

theorem uint32Text_injective : Function.Injective uint32Text :=
  fun _ _ h => UInt32.toNat_inj.mp (Text.natText_injective h)

theorem uint16Text_injective : Function.Injective uint16Text :=
  fun _ _ h => UInt16.toNat_inj.mp (Text.natText_injective h)

theorem int32Text_injective : Function.Injective int32Text :=
  fun _ _ h => Int32.toInt_inj.mp (Text.intText_injective h)

theorem boolText_injective : Function.Injective Text.boolText := fun _ _ h => Text.boolText_injective h

theorem walMode_label_injective : Function.Injective WalMode.label := by
  intro a b h
  cases a <;> cases b <;> first | rfl | exact absurd h (by decide)

theorem compression_label_injective : Function.Injective Compression.label := by
  intro a b h
  cases a <;> cases b <;> first | rfl | exact absurd h (by decide)

theorem warmUpTree_injective : Function.Injective warmUpTree := by
  intro a b h
  cases a <;> cases b <;> first | rfl | exact absurd h (by simp [warmUpTree, bareBean, WarmUp.className])

theorem exporterTree_injective : Function.Injective exporterTree := by
  intro a b h
  cases a <;> cases b <;>
    first | rfl | exact absurd h (by simp [exporterTree, bareBean, MetricExporter.className])

namespace Slot

variable {α : Type} {name : String}

theorem always_inj {s t : String} : always name s = always name t ↔ s = t := by simp [always]

theorem holding_inj {e e' : Element} : holding name e = holding name e' ↔ e = e' := by simp [holding]

theorem given_inj {show_ : α → String} (inj : Function.Injective show_) {a b : Option α} :
    given name show_ a = given name show_ b ↔ a = b := by
  have content : Function.Injective fun a => Content.scalar (show_ a) :=
    fun _ _ h => inj (Content.scalar.inj h)
  simp [given, (Option.map_injective content).eq_iff]

theorem nested_inj {tree : α → Element} (inj : Function.Injective tree) {a b : Option α} :
    nested name tree a = nested name tree b ↔ a = b := by
  have content : Function.Injective fun a => Content.element (tree a) :=
    fun _ _ h => inj (Content.element.inj h)
  simp [nested, (Option.map_injective content).eq_iff]

theorem listed_inj {tree : α → Element} (inj : Function.Injective tree) {as bs : List α} :
    listed name tree as = listed name tree bs ↔ as = bs := by
  constructor
  · intro h
    cases as with
    | nil =>
        cases bs with
        | nil => rfl
        | cons b bs => simp [listed] at h
    | cons a as =>
        cases bs with
        | nil => simp [listed] at h
        | cons b bs =>
            apply List.map_injective_iff.mpr inj
            simpa [listed, list] using h
  · intro same
    rw [same]

end Slot

theorem slots_of_table {className : String} {ss ts : List Slot}
    (names : ss.map Slot.name = ts.map Slot.name) (distinct : (ss.map Slot.name).Nodup)
    (same : table className ss = table className ts) : ss = ts :=
  Slot.table_injective names distinct (Element.node.inj same).2.2

theorem regionTree_injective : Function.Injective regionTree := by
  intro r r' h
  have distinct : ((regionSlots .default).map Slot.name).Nodup := by simp [regionSlots]
  have slots : regionSlots r = regionSlots r' := slots_of_table rfl distinct h
  simp only [regionSlots, List.cons.injEq, Slot.always_inj, Slot.given_inj wordText_injective,
    Slot.given_inj boolText_injective, Slot.nested_inj warmUpTree_injective, wordText_injective.eq_iff,
    boolText_injective.eq_iff, and_true] at slots
  cases r
  cases r'
  simp_all

theorem storageTree_injective : Function.Injective storageTree := by
  intro s s' h
  have distinct : ((storageSlots .default).map Slot.name).Nodup := by simp [storageSlots]
  have slots : storageSlots s = storageSlots s' := slots_of_table rfl distinct h
  simp only [storageSlots, List.cons.injEq, Slot.always_inj, Slot.given_inj wordText_injective,
    Slot.given_inj boolText_injective, Slot.given_inj uint32Text_injective,
    Slot.given_inj int32Text_injective, Slot.given_inj Function.injective_id,
    Slot.given_inj walMode_label_injective, Slot.given_inj compression_label_injective,
    Slot.nested_inj warmUpTree_injective, Slot.holding_inj, Slot.listed_inj regionTree_injective,
    regionTree_injective.eq_iff, boolText_injective.eq_iff, and_true] at slots
  cases s
  cases s'
  simp_all

theorem finderTree_injective : Function.Injective finderTree := by
  intro as as' h
  have leaves : as.map (Element.leaf "value") = as'.map (Element.leaf "value") := by
    simpa [finderTree, finderSlots, table, bean, holder, list, Slot.holding, Slot.element?] using h
  exact List.map_injective_iff.mpr (fun _ _ same => (Element.leaf.inj same).2) leaves

theorem discoveryTree_injective : Function.Injective discoveryTree := by
  intro d d' h
  have distinct : ((discoverySlots {}).map Slot.name).Nodup := by simp [discoverySlots]
  have slots : discoverySlots d = discoverySlots d' := slots_of_table rfl distinct h
  simp only [discoverySlots, List.cons.injEq, Slot.given_inj uint16Text_injective,
    Slot.holding_inj, finderTree_injective.eq_iff, and_true] at slots
  cases d
  cases d'
  simp_all

/-- The tree of a configuration tells everything but the version. -/
theorem referenceTree_eq_iff {m n : Node} :
    referenceTree m = referenceTree n ↔ { m with version := n.version } = n := by
  constructor
  · intro h
    have distinct : ((nodeSlots .default).map Slot.name).Nodup := by simp [nodeSlots]
    have slots : nodeSlots m = nodeSlots n :=
      slots_of_table rfl distinct (List.cons.inj (Element.node.inj h).2.2).1
    simp only [nodeSlots, List.cons.injEq, Slot.always_inj, Slot.given_inj Function.injective_id,
      Slot.listed_inj exporterTree_injective, Slot.nested_inj discoveryTree_injective,
      Slot.nested_inj storageTree_injective, wordText_injective.eq_iff, boolText_injective.eq_iff,
      and_true] at slots
    cases m
    cases n
    simp_all
  · intro h
    rw [← h]
    rfl

end ClusterHarness.Render
