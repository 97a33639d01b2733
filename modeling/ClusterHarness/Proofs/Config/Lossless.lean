import ClusterHarness.Proofs.Config.RoundTrip
import ClusterHarness.Proofs.Schema.Outline
import ClusterHarness.Render.Artifact

/-! # Configurations in JSON

The JSON of a configuration holds the keys of the fields that are always written and of those that are
set, and gives the configuration back in both layouts.
-/

namespace ClusterHarness.Config

open Json (Outline)
open Json.Outline (given scalarOf unlessEmpty)

def WarmUp.outline : Outline := .record [("type", .scalar)]

def Region.outline (r : Region) : Outline :=
  .record <|
    [("name", .scalar), ("persistence_enabled", .scalar), ("initial_size", .scalar),
      ("max_size", .scalar), ("metrics_enabled", .scalar)]
    ++ scalarOf "metrics_rate_time_interval" r.metricsRateTimeInterval
    ++ scalarOf "checkpoint_page_buffer_size" r.checkpointPageBufferSize
    ++ scalarOf "cdc_enabled" r.cdcEnabled
    ++ scalarOf "lazy_memory_allocation" r.lazyMemoryAllocation
    ++ given "warm_up_configuration" r.warmUp fun _ => WarmUp.outline

def Storage.outline (s : Storage) : Outline :=
  .record <|
    [("default", s.defaultRegion.outline)]
    ++ unlessEmpty "regions" s.regions Region.outline
    ++ scalarOf "page_size" s.pageSize
    ++ scalarOf "wal_mode" s.walMode
    ++ scalarOf "wal_path" s.walPath
    ++ scalarOf "wal_archive_path" s.walArchivePath
    ++ scalarOf "cdc_wal_path" s.cdcWalPath
    ++ scalarOf "wal_segment_size" s.walSegmentSize
    ++ scalarOf "wal_buffer_size" s.walBufferSize
    ++ scalarOf "wal_history_size" s.walHistorySize
    ++ scalarOf "max_wal_archive_size" s.maxWalArchiveSize
    ++ scalarOf "wal_compaction_enabled" s.walCompactionEnabled
    ++ scalarOf "write_recovery_data_on_checkpoint" s.writeRecoveryDataOnCheckpoint
    ++ scalarOf "wal_force_archive_timeout" s.walForceArchiveTimeout
    ++ scalarOf "checkpoint_frequency" s.checkpointFrequency
    ++ scalarOf "metrics_rate_time_interval" s.metricsRateTimeInterval
    ++ scalarOf "wal_page_compression" s.walPageCompression
    ++ scalarOf "wal_page_compression_level" s.walPageCompressionLevel
    ++ scalarOf "checkpoint_recovery_data_compression" s.checkpointRecoveryDataCompression
    ++ scalarOf "checkpoint_recovery_data_compression_level" s.checkpointRecoveryDataCompressionLevel
    ++ [("metrics_enabled", .scalar)]
    ++ given "default_warm_up_configuration" s.defaultWarmUp fun _ => WarmUp.outline

def Discovery.outline (d : Discovery) : Outline :=
  .record <|
    [("addresses", .list (d.addresses.map fun _ => .scalar))]
    ++ scalarOf "local_port" d.localPort
    ++ scalarOf "local_port_range" d.localPortRange

def Node.outline (n : Node) : Outline :=
  .record <|
    [("version", .scalar), ("client_mode", .scalar)]
    ++ scalarOf "consistent_id" n.consistentId
    ++ [("peer_class_loading_enabled", .scalar)]
    ++ unlessEmpty "metric_exporters" n.metricExporters (fun _ => .scalar)
    ++ [("failure_detection_timeout", .scalar)]
    ++ given "discovery_spi" n.discovery Discovery.outline
    ++ given "data_storage" n.storage Storage.outline

/-- The bounds of a harness are always written. -/
def Harness.outline : Outline :=
  .record
    [("cluster", .record [("startup_timeout_in_ms", .scalar), ("shutdown_timeout_in_ms", .scalar)]),
     ("application", .record [("await_stopped_timeout_in_ms", .scalar)]),
     ("topology", .record [("check_timeout_in_ms", .scalar), ("poll_interval_in_ms", .scalar)])]

open Schema

@[simp] theorem WarmUp.codec_outline (w : WarmUp) : (codec.encode w).outline = outline :=
  TaggedEnumeration.codec_outline variants w

@[simp] theorem WalMode.codec_outline (mode : WalMode) : (codec.encode mode).outline = .scalar :=
  Enumeration.codec_outline variants mode

@[simp] theorem Compression.codec_outline (c : Compression) : (codec.encode c).outline = .scalar :=
  Enumeration.codec_outline variants c

@[simp] theorem MetricExporter.codec_outline (e : MetricExporter) :
    (codec.encode e).outline = .scalar :=
  Enumeration.codec_outline variants e

@[simp] theorem version_outline (v : Version) : (Version.codec.encode v).outline = .scalar :=
  Codec.spelled_outline _ _ v

@[simp] theorem Region.codec_outline (r : Region) : (codec.encode r).outline = r.outline := by
  refine (Record.codec_outline record r).trans (congrArg Outline.record ?_)
  simp [record, scalarOf]

@[simp] theorem Storage.codec_outline (s : Storage) : (codec.encode s).outline = s.outline := by
  have regions := Field.listed_outline "regions" s regions (fun v s => { s with regions := v })
    (Codec.list_outline Region.codec)
  refine (Record.codec_outline record s).trans (congrArg Outline.record ?_)
  simp [record, scalarOf, regions]

@[simp] theorem Discovery.codec_outline (d : Discovery) : (codec.encode d).outline = d.outline := by
  refine (Record.codec_outline record d).trans (congrArg Outline.record ?_)
  simp [record, scalarOf]

theorem Node.codec_outline (n : Node) : (codec.encode n).outline = n.outline := by
  have exporters := Field.listed_outline "metric_exporters" n metricExporters
    (fun v n => { n with metricExporters := v })
    (Codec.sorted_outline MetricExporter.codec MetricExporter.arrange)
  refine (Record.codec_outline record n).trans (congrArg Outline.record ?_)
  simp [record, scalarOf, exporters]

theorem Harness.codec_outline (h : Harness) : (codec.encode h).outline = outline := rfl

/-- Both layouts of what is written for a value give it back, and its keys are those of the outline. -/
structure Lossless (codec : Codec α) (a : α) (outline : Outline) : Prop where
  pretty : codec.ofText (codec.encode a).pretty = .ok a
  compact : codec.ofText (codec.encode a).compact = .ok a
  keys : (codec.encode a).outline = outline

theorem Lossless.of_keeps {codec : Codec α} {depth : Nat} {a : α} {outline : Outline}
    (keeps : codec.Keeps depth a) (room : depth ≤ Json.maxNesting)
    (keys : (codec.encode a).outline = outline) : Lossless codec a outline where
  pretty := Codec.ofText_pretty keeps room
  compact := Codec.ofText_compact keeps room
  keys := keys

/-- No configuration loses anything in JSON, and nothing that is unset is written. -/
theorem json_is_lossless :
    (∀ n : Node, MetricExporter.IsSet n.metricExporters →
      Node.codec.ofText (Render.Format.json.render n) = .ok n ∧ Lossless Node.codec n n.outline) ∧
    (∀ s : Storage, Lossless Storage.codec s s.outline) ∧
    (∀ r : Region, Lossless Region.codec r r.outline) ∧
    (∀ d : Discovery, Lossless Discovery.codec d d.outline) ∧
    ∀ h : Harness, Lossless Harness.codec h Harness.outline := by
  refine ⟨?_, ?_, ?_, ?_, ?_⟩
  · intro n set
    have lossless : Lossless Node.codec n n.outline :=
      .of_keeps (Node.codec_keeps 0 set) (by decide) n.codec_outline
    exact ⟨lossless.pretty, lossless⟩
  · intro s
    exact .of_keeps (Storage.codec_keeps 0 s) (by decide) s.codec_outline
  · intro r
    exact .of_keeps (Region.codec_keeps 0 r) (by decide) r.codec_outline
  · intro d
    exact .of_keeps (Discovery.codec_keeps 0 d) (by decide) d.codec_outline
  · intro h
    exact .of_keeps (Harness.codec_keeps 0 h) (by decide) h.codec_outline

theorem json_is_lossless_crowded :
    let n : Node :=
      { consistentId := some "a\t\"b\"\u2028", metricExporters := [.jmx, .openCensus],
        discovery := some { addresses := ["[::1]:47500", ""], localPort := some 0 },
        storage := some
          { regions := [{ name := "", cdcEnabled := some false, warmUp := some .noOp }],
            walMode := some .none, walPageCompressionLevel := some (-131072) } }
    MetricExporter.IsSet n.metricExporters ∧
      Node.codec.ofText (Render.Format.json.render n) = .ok n := by
  intro n
  have set : MetricExporter.IsSet n.metricExporters :=
    .cons_cons _ (.cons _ (.cons_cons _ .slnil))
  exact ⟨set, (json_is_lossless.1 n set).1⟩

end ClusterHarness.Config
