import ClusterHarness.Proofs.Config.RoundTrip
import ClusterHarness.Proofs.Schema.Partial

/-! # Configurations of which a part is given

Each record with the names of its fields, the values that they take, and the override that a value
stands for. What is not given is as in the default configuration, in nested records too.
-/

namespace ClusterHarness

open Schema

namespace Config

theorem WarmUp.codec_takes : codec.Takes (.tagged variants) :=
  TaggedEnumeration.codec_takes (by decide)

theorem WalMode.codec_takes : codec.Takes (.named variants) := Enumeration.codec_takes (by decide)

theorem Compression.codec_takes : codec.Takes (.named variants) :=
  Enumeration.codec_takes (by decide)

theorem MetricExporter.codec_takes : codec.Takes (.named variants) :=
  Enumeration.codec_takes (by decide)

namespace Region

def form : List (FieldForm Region) :=
  [.required "name" .text fun v r => r.apply (.name v),
   .required "persistence_enabled" .bool fun v r => r.apply (.persistenceEnabled v),
   .required "initial_size" .uint64 fun v r => r.apply (.initialSize v),
   .required "max_size" .uint64 fun v r => r.apply (.maxSize v),
   .required "metrics_enabled" .bool fun v r => r.apply (.metricsEnabled v),
   .optional "metrics_rate_time_interval" .uint64 fun v r => r.apply (.metricsRateTimeInterval v),
   .optional "checkpoint_page_buffer_size" .uint64 fun v r => r.apply (.checkpointPageBufferSize v),
   .optional "cdc_enabled" .bool fun v r => r.apply (.cdcEnabled v),
   .optional "lazy_memory_allocation" .bool fun v r => r.apply (.lazyMemoryAllocation v),
   .optional "warm_up_configuration" (.tagged WarmUp.variants) fun v r => r.apply (.warmUp v)]

def meaning : Meaning Region := .object form .default

theorem codec_takes : codec.Takes meaning :=
  Record.codec_takes rfl (by simp [record]) (by simp [Record.IsApart, record]) <|
    .cons (Field.plain_agrees Codec.text_takes) <|
    .cons (Field.plain_agrees Codec.bool_takes) <|
    .cons (Field.plain_agrees Codec.uint64_takes) <|
    .cons (Field.plain_agrees Codec.uint64_takes) <|
    .cons (Field.plain_agrees Codec.bool_takes) <|
    .cons (Field.optional_agrees Codec.uint64_takes (fun _ => rfl) rfl) <|
    .cons (Field.optional_agrees Codec.uint64_takes (fun _ => rfl) rfl) <|
    .cons (Field.optional_agrees Codec.bool_takes (fun _ => rfl) rfl) <|
    .cons (Field.optional_agrees Codec.bool_takes (fun _ => rfl) rfl) <|
    .cons (Field.optional_agrees WarmUp.codec_takes (fun _ => rfl) rfl) .nil

end Region

namespace Storage

def form : List (FieldForm Storage) :=
  [.required "default" Region.meaning fun v s => s.apply (.defaultRegion v),
   .required "regions" (.list Region.meaning) fun v s => s.apply (.regions v),
   .optional "page_size" .uint32 fun v s => s.apply (.pageSize v),
   .optional "wal_mode" (.named WalMode.variants) fun v s => s.apply (.walMode v),
   .optional "wal_path" .text fun v s => s.apply (.walPath v),
   .optional "wal_archive_path" .text fun v s => s.apply (.walArchivePath v),
   .optional "cdc_wal_path" .text fun v s => s.apply (.cdcWalPath v),
   .optional "wal_segment_size" .uint64 fun v s => s.apply (.walSegmentSize v),
   .optional "wal_buffer_size" .uint64 fun v s => s.apply (.walBufferSize v),
   .optional "wal_history_size" .uint32 fun v s => s.apply (.walHistorySize v),
   .optional "max_wal_archive_size" .uint64 fun v s => s.apply (.maxWalArchiveSize v),
   .optional "wal_compaction_enabled" .bool fun v s => s.apply (.walCompactionEnabled v),
   .optional "write_recovery_data_on_checkpoint" .bool
     fun v s => s.apply (.writeRecoveryDataOnCheckpoint v),
   .optional "wal_force_archive_timeout" .uint64 fun v s => s.apply (.walForceArchiveTimeout v),
   .optional "checkpoint_frequency" .uint64 fun v s => s.apply (.checkpointFrequency v),
   .optional "metrics_rate_time_interval" .uint64 fun v s => s.apply (.metricsRateTimeInterval v),
   .optional "wal_page_compression" (.named Compression.variants)
     fun v s => s.apply (.walPageCompression v),
   .optional "wal_page_compression_level" .int32 fun v s => s.apply (.walPageCompressionLevel v),
   .optional "checkpoint_recovery_data_compression" (.named Compression.variants)
     fun v s => s.apply (.checkpointRecoveryDataCompression v),
   .optional "checkpoint_recovery_data_compression_level" .int32
     fun v s => s.apply (.checkpointRecoveryDataCompressionLevel v),
   .required "metrics_enabled" .bool fun v s => s.apply (.metricsEnabled v),
   .optional "default_warm_up_configuration" (.tagged WarmUp.variants)
     fun v s => s.apply (.defaultWarmUp v)]

def meaning : Meaning Storage := .object form .default

theorem record_isApart : record.IsApart := by
  simp only [Record.IsApart, record, List.pairwise_cons, List.forall_mem_cons, List.not_mem_nil,
    List.Pairwise.nil, Field.plain_leaves, Field.listed_leaves, Field.optional_leaves,
    Field.plain_encode, Field.listed_encode, Field.optional_encode, implies_true, false_implies,
    and_self]

theorem codec_takes : codec.Takes meaning :=
  Record.codec_takes rfl (by simp [record]) record_isApart <|
    .cons (Field.plain_agrees Region.codec_takes) <|
    .cons (Field.listed_agrees (Codec.list_takes Region.codec_takes)) <|
    .cons (Field.optional_agrees Codec.uint32_takes (fun _ => rfl) rfl) <|
    .cons (Field.optional_agrees WalMode.codec_takes (fun _ => rfl) rfl) <|
    .cons (Field.optional_agrees Codec.text_takes (fun _ => rfl) rfl) <|
    .cons (Field.optional_agrees Codec.text_takes (fun _ => rfl) rfl) <|
    .cons (Field.optional_agrees Codec.text_takes (fun _ => rfl) rfl) <|
    .cons (Field.optional_agrees Codec.uint64_takes (fun _ => rfl) rfl) <|
    .cons (Field.optional_agrees Codec.uint64_takes (fun _ => rfl) rfl) <|
    .cons (Field.optional_agrees Codec.uint32_takes (fun _ => rfl) rfl) <|
    .cons (Field.optional_agrees Codec.uint64_takes (fun _ => rfl) rfl) <|
    .cons (Field.optional_agrees Codec.bool_takes (fun _ => rfl) rfl) <|
    .cons (Field.optional_agrees Codec.bool_takes (fun _ => rfl) rfl) <|
    .cons (Field.optional_agrees Codec.uint64_takes (fun _ => rfl) rfl) <|
    .cons (Field.optional_agrees Codec.uint64_takes (fun _ => rfl) rfl) <|
    .cons (Field.optional_agrees Codec.uint64_takes (fun _ => rfl) rfl) <|
    .cons (Field.optional_agrees Compression.codec_takes (fun _ => rfl) rfl) <|
    .cons (Field.optional_agrees Codec.int32_takes (fun _ => rfl) rfl) <|
    .cons (Field.optional_agrees Compression.codec_takes (fun _ => rfl) rfl) <|
    .cons (Field.optional_agrees Codec.int32_takes (fun _ => rfl) rfl) <|
    .cons (Field.plain_agrees Codec.bool_takes) <|
    .cons (Field.optional_agrees WarmUp.codec_takes (fun _ => rfl) rfl) .nil

end Storage

namespace Discovery

def form : List (FieldForm Discovery) :=
  [.required "addresses" (.list .text) fun v d => { d with addresses := v },
   .optional "local_port" .uint16 fun v d => d.apply (.localPort v),
   .optional "local_port_range" .uint16 fun v d => d.apply (.localPortRange v)]

def meaning : Meaning Discovery := .object form .default

theorem codec_takes : codec.Takes meaning :=
  Record.codec_takes rfl (by simp [record]) (by simp [Record.IsApart, record]) <|
    .cons (Field.plain_agrees (Codec.list_takes Codec.text_takes)) <|
    .cons (Field.optional_agrees Codec.uint16_takes (fun _ => rfl) rfl) <|
    .cons (Field.optional_agrees Codec.uint16_takes (fun _ => rfl) rfl) .nil

end Discovery

namespace Node

def form : List (FieldForm Node) :=
  [.required "version" (.spelled fun s v => Version.Spelled (Text.trim s) v)
     fun v n => n.apply (.version v),
   .required "client_mode" .bool fun v n => n.apply (.clientMode v),
   .optional "consistent_id" .text fun v n => n.apply (.consistentId v),
   .required "peer_class_loading_enabled" .bool fun v n => n.apply (.peerClassLoadingEnabled v),
   .required "metric_exporters" (.list (.named MetricExporter.variants))
     fun v n => n.apply (.metricExporters v),
   .required "failure_detection_timeout" .uint64 fun v n => n.apply (.failureDetectionTimeout v),
   .optional "discovery_spi" Discovery.meaning fun v n => n.apply (.discovery v),
   .optional "data_storage" Storage.meaning fun v n => n.apply (.storage v)]

def meaning : Meaning Node := .object form .default

theorem version_takes :
    Version.codec.Takes (.spelled fun s v => Version.Spelled (Text.trim s) v) := by
  apply Codec.spelled_takes
  intro s v spelled
  rw [Version.read_eq_ok_iff.mpr spelled]
  rfl

theorem codec_takes : codec.Takes meaning :=
  Record.codec_takes rfl (by simp [record]) (by simp [Record.IsApart, record]) <|
    .cons (Field.plain_agrees version_takes) <|
    .cons (Field.plain_agrees Codec.bool_takes) <|
    .cons (Field.optional_agrees Codec.text_takes (fun _ => rfl) rfl) <|
    .cons (Field.plain_agrees Codec.bool_takes) <|
    .cons (Field.sorted_agrees MetricExporter.codec_takes) <|
    .cons (Field.plain_agrees Codec.uint64_takes) <|
    .cons (Field.optional_agrees Discovery.codec_takes (fun _ => rfl) rfl) <|
    .cons (Field.optional_agrees Storage.codec_takes (fun _ => rfl) rfl) .nil

end Node

namespace ClusterBounds

def form : List (FieldForm ClusterBounds) :=
  [.required "startup_timeout_in_ms" .uint64 fun v b => { b with startupTimeout := v },
   .required "shutdown_timeout_in_ms" .uint64 fun v b => { b with shutdownTimeout := v }]

def meaning : Meaning ClusterBounds := .object form {}

theorem codec_takes : codec.Takes meaning :=
  Record.codec_takes rfl (by simp [record]) (by simp [Record.IsApart, record]) <|
    .cons (Field.plain_agrees Codec.uint64_takes) <|
    .cons (Field.plain_agrees Codec.uint64_takes) .nil

end ClusterBounds

namespace ApplicationBounds

def form : List (FieldForm ApplicationBounds) :=
  [.required "await_stopped_timeout_in_ms" .uint64 fun v b => { b with awaitStoppedTimeout := v }]

def meaning : Meaning ApplicationBounds := .object form {}

theorem codec_takes : codec.Takes meaning :=
  Record.codec_takes rfl (by simp [record]) (by simp [Record.IsApart, record]) <|
    .cons (Field.plain_agrees Codec.uint64_takes) .nil

end ApplicationBounds

namespace TopologyCheck

def form : List (FieldForm TopologyCheck) :=
  [.required "check_timeout_in_ms" .uint64 fun v c => { c with checkTimeout := v },
   .required "poll_interval_in_ms" .uint64 fun v c => { c with pollInterval := v }]

def meaning : Meaning TopologyCheck := .object form {}

theorem codec_takes : codec.Takes meaning :=
  Record.codec_takes rfl (by simp [record]) (by simp [Record.IsApart, record]) <|
    .cons (Field.plain_agrees Codec.uint64_takes) <|
    .cons (Field.plain_agrees Codec.uint64_takes) .nil

end TopologyCheck

namespace Harness

def form : List (FieldForm Harness) :=
  [.required "cluster" ClusterBounds.meaning fun v h => { h with cluster := v },
   .required "application" ApplicationBounds.meaning fun v h => { h with application := v },
   .required "topology" TopologyCheck.meaning fun v h => { h with topology := v }]

def meaning : Meaning Harness := .object form .default

theorem codec_takes : codec.Takes meaning :=
  Record.codec_takes rfl (by simp [record]) (by simp [Record.IsApart, record]) <|
    .cons (Field.plain_agrees ClusterBounds.codec_takes) <|
    .cons (Field.plain_agrees ApplicationBounds.codec_takes) <|
    .cons (Field.plain_agrees TopologyCheck.codec_takes) .nil

end Harness

/-- What decoding puts in place of fields that are not given is what a new record has there. -/
theorem absent_fields_have_defaults :
    Region.codec.Completes Region.form .default ∧
    Storage.codec.Completes Storage.form .default ∧
    Discovery.codec.Completes Discovery.form .default ∧
    Node.codec.Completes Node.form .default ∧
    ClusterBounds.codec.Completes ClusterBounds.form {} ∧
    ApplicationBounds.codec.Completes ApplicationBounds.form {} ∧
    TopologyCheck.codec.Completes TopologyCheck.form {} ∧
    Harness.codec.Completes Harness.form .default :=
  ⟨Region.codec_takes.completes, Storage.codec_takes.completes, Discovery.codec_takes.completes,
    Node.codec_takes.completes, ClusterBounds.codec_takes.completes,
    ApplicationBounds.codec_takes.completes, TopologyCheck.codec_takes.completes,
    Harness.codec_takes.completes⟩

theorem absent_fields_have_defaults_sparse :
    let region : List (String × Json) :=
      [("cdc_enabled", .null), ("name", .text "hot"),
       ("warm_up_configuration", .object [("threads", .nat 4), ("type", .text "LoadAll")])]
    let storage : List (String × Json) :=
      [("later", .array [.null]), ("regions", .array [.object region, .object []]),
       ("default", .object [("max_size", .nat 1048576)]), ("wal_mode", .object [("NONE", .null)])]
    let members : List (String × Json) :=
      [("data_storage", .object storage), ("consistent_id", .null), ("version", .text " 2.16\t"),
       ("metric_exporters", .array [.text "Log", .text "Jmx", .text "Log"])]
    let n : Node :=
      { version := .release 2 16 0
        metricExporters := [.jmx, .log]
        storage := some
          { defaultRegion := { maxSize := 1048576 }
            regions := [{ name := "hot", warmUp := some .loadAll }, {}]
            walMode := some .none } }
    Amends Node.form members .default n ∧ Node.codec.ofJson (.object members) = .ok n ∧
      Node.codec.ofText (Json.object members).compact = .ok n := by
  intro region storage members n
  have hot : Meaning.text (.text "hot") "hot" := rfl
  have size : Meaning.uint64 (.nat 1048576) 1048576 := rfl
  have loadAll : Meaning.tagged WarmUp.variants
      (.object [("threads", .nat 4), ("type", .text "LoadAll")]) .loadAll :=
    ⟨by decide, .inl ⟨[("threads", .nat 4)], [], rfl, by simp⟩⟩
  have noLog : Meaning.named WalMode.variants (.object [("NONE", .null)]) .none :=
    ⟨by decide, .inr rfl⟩
  have exporters : Meaning.list (.named MetricExporter.variants)
      (.array [.text "Log", .text "Jmx", .text "Log"]) [.log, .jmx, .log] :=
    ⟨_, rfl, .cons ⟨by decide, .inl rfl⟩ <| .cons ⟨by decide, .inl rfl⟩ <|
      .cons ⟨by decide, .inl rfl⟩ .nil⟩
  have spelled : Version.Spelled (Text.trim " 2.16\t") (.release 2 16 0) :=
    Version.read_eq_ok_iff.mp (by decide +kernel)
  have hotRegion : Region.meaning (.object region) { name := "hot", warmUp := some .loadAll } :=
    ⟨_, rfl, .null (i := 7) rfl (by decide) <|
      .required (i := 0) rfl hot (by decide) <|
      .optional (i := 9) rfl loadAll (by decide) (.nil _)⟩
  have regions : Meaning.list Region.meaning (.array [.object region, .object []]) [_, {}] :=
    ⟨_, rfl, .cons hotRegion (.cons ⟨_, rfl, .nil _⟩ .nil)⟩
  have large : Region.meaning (.object [("max_size", .nat 1048576)]) { maxSize := 1048576 } :=
    ⟨_, rfl, .required (i := 3) rfl size (by decide) (.nil _)⟩
  have stored : Storage.meaning (.object storage) _ :=
    ⟨_, rfl, .unknown (by decide) <|
      .required (i := 1) rfl regions (by decide) <|
      .required (i := 0) rfl large (by decide) <|
      .optional (i := 3) rfl noLog (by decide) (.nil _)⟩
  have amends : Amends Node.form members .default n :=
    .optional (i := 7) rfl stored (by decide) <|
      .null (i := 2) rfl (by decide) <|
      .required (i := 0) rfl ⟨_, rfl, spelled⟩ (by decide) <|
      .required (i := 4) rfl exporters (by decide) (.nil _)
  have stands : Json.parse? (Json.object members).compact = some (.object members) := by
    rw [Json.parse?, Json.read_compact (by decide)]
    rfl
  have completes := absent_fields_have_defaults.2.2.2.1
  exact ⟨amends, completes.value members n amends, completes.text members n amends _ stands⟩

end Config

end ClusterHarness
