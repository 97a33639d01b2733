import ClusterHarness.Config.Harness
import ClusterHarness.Config.Node

/-! # Which configurations are valid

What a configuration has to be like for the engine, and the rules that say so in the order in which they
count. A check succeeds just when every rule holds. Otherwise it tells of the first one that is broken,
whatever else is wrong behind it.
-/

namespace ClusterHarness.Config

/-! ## Rules -/

/-- What has to hold, and what a configuration is told for which it does not. -/
structure Rule where
  holds : Prop
  violation : Violation

/-- What comes of rules that are checked one after the other. -/
inductive Judged : List Rule → Except Violation Unit → Prop where
  | kept {rules} (all : ∀ rule ∈ rules, rule.holds) : Judged rules (.ok ())
  | broken {before rule after} (front : ∀ rule ∈ before, rule.holds) (breach : ¬ rule.holds) :
      Judged (before ++ rule :: after) (.error rule.violation)

namespace Judged

variable {rules more : List Rule} {x y : Except Violation Unit}

theorem nil : Judged [] (.ok ()) := .kept (by simp)

theorem refused {rule : Rule} (breach : ¬ rule.holds) : Judged [rule] (.error rule.violation) := by
  have front : ∀ other ∈ ([] : List Rule), other.holds := by simp
  exact .broken front breach

theorem require {holds : Prop} {test : Bool} {violation : Violation} (same : test = true ↔ holds) :
    Judged [⟨holds, violation⟩] (require test violation) := by
  by_cases kept : test = true
  · rw [Config.require, if_pos kept]
    exact .kept (by simpa using same.mp kept)
  · rw [Config.require, if_neg kept]
    exact .refused fun holds => kept (same.mpr holds)

/-- Rules behind others count when those hold. -/
theorem andThen (first : Judged rules x) (next : Judged more y) :
    Judged (rules ++ more) (x >>= fun _ => y) := by
  cases first with
  | broken front breach =>
      rw [List.append_assoc, List.cons_append]
      exact .broken front breach
  | kept all =>
      cases next with
      | kept rest =>
          refine .kept fun rule member => ?_
          rcases List.mem_append.mp member with early | late
          · exact all rule early
          · exact rest rule late
      | @broken before rule after front breach =>
          rw [← List.append_assoc]
          refine .broken (fun other member => ?_) breach
          rcases List.mem_append.mp member with early | late
          · exact all other early
          · exact front other late

theorem ok_iff (judged : Judged rules x) : x = .ok () ↔ ∀ rule ∈ rules, rule.holds := by
  cases judged with
  | kept all => exact ⟨fun _ => all, fun _ => rfl⟩
  | broken front breach =>
      refine ⟨nofun, fun all => absurd (all _ ?_) breach⟩
      simp

end Judged

/-- Checks what is set, if it is. -/
def ifSet (value : Option α) (check : α → Except Violation Unit) : Except Violation Unit :=
  match value with
  | none => .ok ()
  | some a => check a

/-- The rules for what is set, if it is. -/
def rulesIfSet (value : Option α) (rules : α → List Rule) : List Rule :=
  match value with
  | none => []
  | some a => rules a

theorem Judged.ifSet {value : Option α} {check : α → Except Violation Unit} {rules : α → List Rule}
    (judged : ∀ a, Judged (rules a) (check a)) : Judged (rulesIfSet value rules) (ifSet value check) := by
  cases value with
  | none => exact .nil
  | some a => exact judged a

theorem forall_rulesIfSet {value : Option α} {rules : α → List Rule} {p : Rule → Prop} :
    (∀ rule ∈ rulesIfSet value rules, p rule) ↔ ∀ a, value = some a → ∀ rule ∈ rules a, p rule := by
  cases value <;> simp [rulesIfSet]

theorem not_isBlankText {s : String} :
    (!Text.isBlankText s) = true ↔ ∃ c ∈ s.toList, Text.isBlank c = false := by
  simp [Text.isBlankText]

/-! ## Regions -/

/-- What a region has to be like. -/
structure Region.IsSound (r : Region) : Prop where
  name : ∃ c ∈ r.name.toList, Text.isBlank c = false
  sizes : r.initialSize ≤ r.maxSize
  rateInterval : r.metricsRateTimeInterval ≠ some 0
  pageBuffer : r.checkpointPageBufferSize ≠ some 0

def Region.rules (r : Region) : List Rule :=
  [⟨∃ c ∈ r.name.toList, Text.isBlank c = false, .blankRegionName⟩,
   ⟨r.initialSize ≤ r.maxSize, .regionOversized r.name r.initialSize r.maxSize⟩,
   ⟨r.metricsRateTimeInterval ≠ some 0, .regionRateInterval r.name⟩,
   ⟨r.checkpointPageBufferSize ≠ some 0, .regionPageBuffer r.name⟩]

theorem Region.judged (r : Region) : Judged r.rules r.validate :=
  (Judged.require not_isBlankText).andThen <|
    (Judged.require decide_eq_true_iff).andThen <|
      (Judged.require bne_iff_ne).andThen (.require bne_iff_ne)

theorem Region.rules_hold (r : Region) : (∀ rule ∈ r.rules, rule.holds) ↔ r.IsSound := by
  simp only [rules, List.forall_mem_cons, List.not_mem_nil, false_implies, implies_true, and_true]
  exact ⟨fun ⟨name, sizes, rate, buffer⟩ => ⟨name, sizes, rate, buffer⟩,
    fun ⟨name, sizes, rate, buffer⟩ => ⟨name, sizes, rate, buffer⟩⟩

namespace Storage

/-- The rules for some regions behind others: each region's own ones, and then that none before it has
its name. -/
def regionRules (all : List Region) (rest : List Region) (from_ : Nat) : List Rule :=
  (rest.zipIdx from_).flatMap fun (r, i) =>
    r.rules ++ [⟨r.name ∉ (all.take i).map Region.name, .duplicateRegion r.name⟩]

theorem judged_checkRegions (before rest : List Region) (seen : List String)
    (same : ∀ name, name ∈ seen ↔ name ∈ before.map Region.name) :
    Judged (regionRules (before ++ rest) rest before.length) (checkRegions seen rest) := by
  induction rest generalizing before seen with
  | nil => exact .nil
  | cons r rest ih =>
      have later : ∀ name, name ∈ r.name :: seen ↔ name ∈ (before ++ [r]).map Region.name := by
        intro name
        rw [List.mem_cons, same, List.map_append, List.mem_append, List.map_singleton,
          List.mem_singleton, or_comm]
      have onward := ih _ _ later
      rw [List.append_assoc, List.singleton_append, List.length_append, List.length_singleton] at onward
      have unique : decide (r.name ∉ seen) = true ↔
          r.name ∉ ((before ++ r :: rest).take before.length).map Region.name := by
        rw [decide_eq_true_iff, List.take_left, same]
      rw [regionRules, List.zipIdx_cons, List.flatMap_cons, List.append_assoc]
      exact r.judged.andThen ((Judged.require unique).andThen onward)

theorem regionRules_hold {all : List Region} :
    (∀ rule ∈ regionRules all all 0, rule.holds) ↔
      (∀ r ∈ all, r.IsSound) ∧ (all.map Region.name).Nodup := by
  simp only [regionRules, List.mem_flatMap, Prod.exists, List.mem_append, List.mem_singleton,
    List.mem_zipIdx_iff_getElem?]
  constructor
  · intro holds
    refine ⟨?_, List.pairwise_iff_getElem.mpr ?_⟩
    · intro r member
      obtain ⟨i, there⟩ := List.mem_iff_getElem?.mp member
      exact r.rules_hold.mp fun rule own => holds rule ⟨r, i, there, .inl own⟩
    · -- Of two regions the later one is checked against the names of all before it.
      intro i j hi hj less same
      have inside : j < all.length := by simpa using hj
      have there : all[j]? = some all[j] := List.getElem?_eq_getElem inside
      refine holds ⟨_, _⟩ ⟨_, j, there, .inr rfl⟩ ?_
      rw [List.getElem_map, List.getElem_map] at same
      rw [← same, List.map_take]
      exact List.mem_take_iff_getElem.mpr ⟨i, by omega, List.getElem_map ..⟩
  · rintro ⟨sound, distinct⟩ rule ⟨r, i, there, own | rfl⟩
    · exact r.rules_hold.mpr (sound r (List.mem_of_getElem? there)) rule own
    · intro seen
      rw [List.map_take] at seen
      obtain ⟨k, hk, same⟩ := List.mem_take_iff_getElem.mp seen
      obtain ⟨hi, rfl⟩ := List.getElem?_eq_some_iff.mp there
      have order := List.pairwise_iff_getElem.mp distinct k i (by omega) (by simpa using hi) (by omega)
      exact order (same.trans (List.getElem_map ..).symm)

end Storage

/-! ## Storage -/

/-- Whether an algorithm takes a level. Without an algorithm there is no level either. -/
def Compression.Admits : Option Compression → Int32 → Prop
  | some .zstd, level => -131072 ≤ level.toInt ∧ level.toInt ≤ 22
  | some .lz4, level => 0 ≤ level.toInt ∧ level.toInt ≤ 17
  | _, _ => False

/-- What is wrong with a level that is not taken. -/
def Compression.objection (use : CompressionUse) (level : Int32) : Option Compression → Violation
  | none => .levelWithoutAlgorithm use
  | some .zstd => .levelOutOfRange use level.toInt (-131072) 22 "ZSTD"
  | some .lz4 => .levelOutOfRange use level.toInt 0 17 "LZ4"
  | some other => .levelUnsupported use other.label

def Compression.levelRules (use : CompressionUse) (algorithm : Option Compression)
    (level : Option Int32) : List Rule :=
  rulesIfSet level fun level => [⟨Admits algorithm level, objection use level algorithm⟩]

theorem Compression.judged_checkLevel (use : CompressionUse) (algorithm : Option Compression)
    (level : Option Int32) :
    Judged (levelRules use algorithm level) (checkLevel use algorithm level) := by
  cases level with
  | none =>
      have unset : checkLevel use algorithm none = .ok () := by cases algorithm <;> rfl
      rw [unset]
      exact .nil
  | some level =>
      have refused {violation : Violation} : Judged [⟨False, violation⟩] (.error violation) :=
        .refused id
      cases algorithm with
      | none => exact refused
      | some algorithm =>
          cases algorithm with
          | zstd | lz4 => exact .require (by simp [Admits])
          | disabled | skipGarbage | snappy => exact refused

/-- What a storage has to be like. -/
structure Storage.IsSound (s : Storage) : Prop where
  regions : ∀ r ∈ s.allRegions, r.IsSound
  distinct : (s.allRegions.map Region.name).Nodup
  pageSize : ∀ size, s.pageSize = some size →
    size.toNat.isPowerOfTwo ∧ 1024 ≤ size.toNat ∧ size.toNat ≤ 16384
  walSegmentSize : ∀ size, s.walSegmentSize = some size → 512 * 1024 ≤ size.toNat
  walBufferSize : s.walBufferSize ≠ some 0
  checkpointFrequency : s.checkpointFrequency ≠ some 0
  metricsRateTimeInterval : s.metricsRateTimeInterval ≠ some 0
  walPageLevel : ∀ level, s.walPageCompressionLevel = some level →
    Compression.Admits s.walPageCompression level
  checkpointRecoveryLevel : ∀ level, s.checkpointRecoveryDataCompressionLevel = some level →
    Compression.Admits s.checkpointRecoveryDataCompression level

namespace Storage

def pageRules (size : UInt32) : List Rule :=
  [⟨size.toNat.isPowerOfTwo ∧ 1024 ≤ size.toNat ∧ size.toNat ≤ 16384, .pageSize size⟩]

def segmentRules (size : UInt64) : List Rule := [⟨512 * 1024 ≤ size.toNat, .walSegmentSize size⟩]

def rules (s : Storage) : List Rule :=
  regionRules s.allRegions s.allRegions 0 ++
    (rulesIfSet s.pageSize pageRules ++
      (rulesIfSet s.walSegmentSize segmentRules ++
        ([⟨s.walBufferSize ≠ some 0, .walBufferSize⟩] ++
          ([⟨s.checkpointFrequency ≠ some 0, .checkpointFrequency⟩] ++
            ([⟨s.metricsRateTimeInterval ≠ some 0, .metricsRateInterval⟩] ++
              (Compression.levelRules .walPages s.walPageCompression s.walPageCompressionLevel ++
                Compression.levelRules .checkpointRecovery s.checkpointRecoveryDataCompression
                  s.checkpointRecoveryDataCompressionLevel))))))

theorem acceptsPageSize_iff {size : UInt32} : acceptsPageSize size = true ↔
    size.toNat.isPowerOfTwo ∧ 1024 ≤ size.toNat ∧ size.toNat ≤ 16384 := by
  have bounds : Violation.minPageSize.toNat = 1024 ∧ Violation.maxPageSize.toNat = 16384 := ⟨rfl, rfl⟩
  simp only [acceptsPageSize, Bool.and_eq_true, beq_iff_eq, decide_eq_true_eq, UInt32.le_iff_toNat_le,
    bounds, Nat.one_shiftLeft, and_assoc]
  refine and_congr_left fun _ => ⟨fun same => ⟨_, same.symm⟩, ?_⟩
  rintro ⟨k, same⟩
  rw [same, Nat.log2_two_pow]

theorem validate_eq (s : Storage) : s.validate =
    checkRegions [] s.allRegions >>= fun _ =>
    ifSet s.pageSize (fun size => require (acceptsPageSize size) (.pageSize size)) >>= fun _ =>
    ifSet s.walSegmentSize
      (fun size => require (Violation.minWalSegmentSize ≤ size) (.walSegmentSize size)) >>= fun _ =>
    require (s.walBufferSize != some 0) .walBufferSize >>= fun _ =>
    require (s.checkpointFrequency != some 0) .checkpointFrequency >>= fun _ =>
    require (s.metricsRateTimeInterval != some 0) .metricsRateInterval >>= fun _ =>
    Compression.checkLevel .walPages s.walPageCompression s.walPageCompressionLevel >>= fun _ =>
    Compression.checkLevel .checkpointRecovery s.checkpointRecoveryDataCompression
      s.checkpointRecoveryDataCompressionLevel := by
  unfold validate
  cases s.pageSize <;> cases s.walSegmentSize <;> rfl

theorem judged (s : Storage) : Judged s.rules s.validate := by
  have regions : Judged (regionRules s.allRegions s.allRegions 0) (checkRegions [] s.allRegions) :=
    judged_checkRegions [] s.allRegions [] (by simp)
  have pages (size : UInt32) :
      Judged (pageRules size) (require (acceptsPageSize size) (.pageSize size)) :=
    .require acceptsPageSize_iff
  have segments (size : UInt64) : Judged (segmentRules size)
      (require (Violation.minWalSegmentSize ≤ size) (.walSegmentSize size)) :=
    .require (decide_eq_true_iff.trans UInt64.le_iff_toNat_le)
  rw [validate_eq]
  exact regions.andThen <|
    (Judged.ifSet pages).andThen <|
      (Judged.ifSet segments).andThen <|
        (Judged.require bne_iff_ne).andThen <|
          (Judged.require bne_iff_ne).andThen <|
            (Judged.require bne_iff_ne).andThen <|
              (Compression.judged_checkLevel ..).andThen (Compression.judged_checkLevel ..)

theorem rules_hold (s : Storage) : (∀ rule ∈ s.rules, rule.holds) ↔ s.IsSound := by
  simp only [rules, List.forall_mem_append, regionRules_hold, forall_rulesIfSet, List.forall_mem_singleton,
    pageRules, segmentRules, Compression.levelRules]
  exact ⟨fun ⟨⟨regions, distinct⟩, pages, segments, buffer, checkpoints, rates, wal, recovery⟩ =>
      ⟨regions, distinct, pages, segments, buffer, checkpoints, rates, wal, recovery⟩,
    fun ⟨regions, distinct, pages, segments, buffer, checkpoints, rates, wal, recovery⟩ =>
      ⟨⟨regions, distinct⟩, pages, segments, buffer, checkpoints, rates, wal, recovery⟩⟩

end Storage

/-! ## Discovery -/

/-- What discovery settings have to be like. -/
structure Discovery.IsSound (d : Discovery) : Prop where
  addresses : ∀ a ∈ d.addresses, ':' ∈ a.toList
  localPort : d.localPort ≠ some 0

namespace Discovery

def addressRules (addresses : List String) : List Rule :=
  addresses.map fun a => ⟨':' ∈ a.toList, .addressWithoutPort a⟩

def rules (d : Discovery) : List Rule :=
  addressRules d.addresses ++ [⟨d.localPort ≠ some 0, .localPortZero⟩]

/-- Checks that every address names a port. -/
def checkAddresses (addresses : List String) : Except Violation Unit :=
  ifSet (addresses.find? fun a => !hasPort a) fun bad => .error (.addressWithoutPort bad)

theorem judged_checkAddresses (addresses : List String) :
    Judged (addressRules addresses) (checkAddresses addresses) := by
  induction addresses with
  | nil => exact .nil
  | cons a rest ih =>
      have first : Judged [⟨':' ∈ a.toList, .addressWithoutPort a⟩] (require (hasPort a) _) :=
        .require decide_eq_true_iff
      have onward : checkAddresses (a :: rest) =
          require (hasPort a) (.addressWithoutPort a) >>= fun _ => checkAddresses rest := by
        cases port : hasPort a <;> simp [checkAddresses, require, port, bind, Except.bind, ifSet]
      rw [onward]
      exact first.andThen ih

theorem validate_eq (d : Discovery) : d.validate =
    checkAddresses d.addresses >>= fun _ => require (d.localPort != some 0) .localPortZero := by
  unfold validate checkAddresses
  cases d.addresses.find? fun a => !hasPort a <;> rfl

theorem judged (d : Discovery) : Judged d.rules d.validate := by
  rw [validate_eq]
  exact (judged_checkAddresses d.addresses).andThen (.require bne_iff_ne)

theorem rules_hold (d : Discovery) : (∀ rule ∈ d.rules, rule.holds) ↔ d.IsSound := by
  simp only [rules, addressRules, List.forall_mem_append, List.forall_mem_map, List.forall_mem_singleton]
  exact ⟨fun ⟨addresses, port⟩ => ⟨addresses, port⟩, fun ⟨addresses, port⟩ => ⟨addresses, port⟩⟩

end Discovery

/-! ## Nodes -/

/-- What the configuration of a node has to be like. -/
structure Node.IsSound (n : Node) : Prop where
  failureDetectionTimeout : n.failureDetectionTimeout ≠ 0
  consistentId : ∀ id, n.consistentId = some id → ∃ c ∈ id.toList, Text.isBlank c = false
  discovery : ∀ d, n.discovery = some d → d.IsSound
  storage : ∀ s, n.storage = some s → s.IsSound

namespace Node

def idRules (id : String) : List Rule :=
  [⟨∃ c ∈ id.toList, Text.isBlank c = false, .blankConsistentId⟩]

def rules (n : Node) : List Rule :=
  [⟨n.failureDetectionTimeout ≠ 0, .failureDetectionTimeout⟩] ++
    (rulesIfSet n.consistentId idRules ++
      (rulesIfSet n.discovery Discovery.rules ++ rulesIfSet n.storage Storage.rules))

theorem validate_eq (n : Node) : n.validate =
    require (n.failureDetectionTimeout != 0) .failureDetectionTimeout >>= fun _ =>
    ifSet n.consistentId (fun id => require (!Text.isBlankText id) .blankConsistentId) >>= fun _ =>
    ifSet n.discovery Discovery.validate >>= fun _ => ifSet n.storage Storage.validate := by
  unfold validate
  cases n.consistentId <;> cases n.discovery <;> cases n.storage <;> rfl

theorem judged (n : Node) : Judged n.rules n.validate := by
  have ids (id : String) :
      Judged (idRules id) (require (!Text.isBlankText id) .blankConsistentId) := .require not_isBlankText
  rw [validate_eq]
  exact (Judged.require bne_iff_ne).andThen <|
    (Judged.ifSet ids).andThen ((Judged.ifSet Discovery.judged).andThen (.ifSet Storage.judged))

theorem rules_hold (n : Node) : (∀ rule ∈ n.rules, rule.holds) ↔ n.IsSound := by
  simp only [rules, List.forall_mem_append, List.forall_mem_singleton, forall_rulesIfSet, idRules,
    Discovery.rules_hold, Storage.rules_hold]
  exact ⟨fun ⟨timeout, id, discovery, storage⟩ => ⟨timeout, id, discovery, storage⟩,
    fun ⟨timeout, id, discovery, storage⟩ => ⟨timeout, id, discovery, storage⟩⟩

end Node

/-- A configuration is valid just when it is like what the engine asks for. One that is not is refused for
the first rule that it breaks: its own rules count first, then those of its discovery and then those of
its storage, and there each region's own rules count before the one that its name is new. -/
theorem first_broken_rule_counts (n : Node) :
    (n.validate = .ok () ↔ n.IsSound) ∧ Judged n.rules n.validate :=
  ⟨n.judged.ok_iff.trans n.rules_hold, n.judged⟩

/-! ## Harness settings -/

/-- What harness settings have to be like. -/
structure Harness.IsSound (h : Harness) : Prop where
  startupTimeout : h.cluster.startupTimeout ≠ 0
  shutdownTimeout : h.cluster.shutdownTimeout ≠ 0
  awaitStoppedTimeout : h.application.awaitStoppedTimeout ≠ 0
  checkTimeout : h.topology.checkTimeout ≠ 0
  pollInterval : h.topology.pollInterval ≠ 0
  interval_le_timeout : h.topology.pollInterval ≤ h.topology.checkTimeout

namespace Harness

def rules (h : Harness) : List Rule :=
  [⟨h.cluster.startupTimeout ≠ 0, .startupTimeout⟩,
   ⟨h.cluster.shutdownTimeout ≠ 0, .shutdownTimeout⟩,
   ⟨h.application.awaitStoppedTimeout ≠ 0, .awaitStoppedTimeout⟩,
   ⟨h.topology.checkTimeout ≠ 0 ∧ h.topology.pollInterval ≠ 0, .topologyTimes⟩,
   ⟨h.topology.pollInterval ≤ h.topology.checkTimeout,
    .pollInterval h.topology.pollInterval h.topology.checkTimeout⟩]

theorem judged (h : Harness) : Judged h.rules h.validate := by
  have cluster : Judged _ h.cluster.validate := (Judged.require bne_iff_ne).andThen (.require bne_iff_ne)
  have application : Judged _ h.application.validate := Judged.require bne_iff_ne
  have topology : Judged _ h.topology.validate :=
    (Judged.require (by rw [Bool.and_eq_true, bne_iff_ne, bne_iff_ne])).andThen
      (.require decide_eq_true_iff)
  exact cluster.andThen (application.andThen topology)

theorem validate_iff {h : Harness} : h.validate = .ok () ↔ h.IsSound := by
  rw [h.judged.ok_iff]
  simp only [rules, List.forall_mem_cons, List.not_mem_nil, false_implies, implies_true, and_true]
  exact ⟨fun ⟨start, stop, await, ⟨check, poll⟩, le⟩ => ⟨start, stop, await, check, poll, le⟩,
    fun ⟨start, stop, await, check, poll, le⟩ => ⟨start, stop, await, ⟨check, poll⟩, le⟩⟩

end Harness

end ClusterHarness.Config
