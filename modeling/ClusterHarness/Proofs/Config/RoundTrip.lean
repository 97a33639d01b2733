import ClusterHarness.Config.Harness
import ClusterHarness.Config.Node
import ClusterHarness.Proofs.Schema.RoundTrip
import ClusterHarness.Proofs.Version
import Mathlib.Data.List.Sublists

/-! # Configurations that are decoded as they were encoded

Field by field: what is written for a field sets it again, and what is not written is what a new record
has. The exporters of a node are kept when they are in the order of a set.
-/

namespace ClusterHarness

open Schema

namespace Config

theorem WarmUp.codec_keeps (depth : Nat) (w : WarmUp) : codec.Keeps (depth + 1) w :=
  TaggedEnumeration.codec_keeps (by cases w <;> rfl) depth

theorem WalMode.codec_keeps (depth : Nat) (mode : WalMode) : codec.Keeps depth mode :=
  Enumeration.codec_keeps (by cases mode <;> rfl) depth

theorem Compression.codec_keeps (depth : Nat) (c : Compression) : codec.Keeps depth c :=
  Enumeration.codec_keeps (by cases c <;> rfl) depth

theorem MetricExporter.codec_keeps (depth : Nat) (e : MetricExporter) : codec.Keeps depth e :=
  Enumeration.codec_keeps (by cases e <;> rfl) depth

namespace MetricExporter

/-- The lists that stand for sets: in order and without duplicates. -/
def IsSet (exporters : List MetricExporter) : Prop := exporters.Sublist [.jmx, .log, .openCensus]

theorem arrange_isSet (exporters : List MetricExporter) : IsSet (arrange exporters) :=
  List.filter_sublist

theorem arrange_of_isSet {exporters : List MetricExporter} (set : IsSet exporters) :
    arrange exporters = exporters := by
  have all : ∀ es ∈ [MetricExporter.jmx, .log, .openCensus].sublists, arrange es = es := by decide
  exact all exporters (List.mem_sublists.mpr set)

end MetricExporter

theorem Region.codec_keeps (depth : Nat) (r : Region) : codec.Keeps (depth + 2) r := by
  refine Record.codec_keeps (by simp [record])
    (.cons (Field.plain_carries (Codec.text_keeps _ _)) <|
      .cons (Field.plain_carries (Codec.bool_keeps _ _)) <|
      .cons (Field.plain_carries (Codec.uint64_keeps _ _)) <|
      .cons (Field.plain_carries (Codec.uint64_keeps _ _)) <|
      .cons (Field.plain_carries (Codec.bool_keeps _ _)) <|
      .cons (Field.optional_carries (fun _ => rfl) (Codec.uint64_keeps _) nofun) <|
      .cons (Field.optional_carries (fun _ => rfl) (Codec.uint64_keeps _) nofun) <|
      .cons (Field.optional_carries (fun _ => rfl) (Codec.bool_keeps _) nofun) <|
      .cons (Field.optional_carries (fun _ => rfl) (Codec.bool_keeps _) nofun) <|
      .cons (Field.optional_carries (fun _ => rfl) (WarmUp.codec_keeps depth) nofun) .nil) ?_
  simp [Record.changed, record]

theorem Storage.codec_keeps (depth : Nat) (s : Storage) : codec.Keeps (depth + 4) s := by
  have regions : (Codec.list Region.codec).Keeps (depth + 3) s.regions :=
    Codec.list_keeps fun r _ => Region.codec_keeps depth r
  refine Record.codec_keeps (by simp [record])
    (.cons (Field.plain_carries (Region.codec_keeps (depth + 1) _)) <|
      .cons (Field.listed_carries (fun _ => rfl) regions) <|
      .cons (Field.optional_carries (fun _ => rfl) (Codec.uint32_keeps _) nofun) <|
      .cons (Field.optional_carries (fun _ => rfl) (WalMode.codec_keeps _) nofun) <|
      .cons (Field.optional_carries (fun _ => rfl) (Codec.text_keeps _) nofun) <|
      .cons (Field.optional_carries (fun _ => rfl) (Codec.text_keeps _) nofun) <|
      .cons (Field.optional_carries (fun _ => rfl) (Codec.text_keeps _) nofun) <|
      .cons (Field.optional_carries (fun _ => rfl) (Codec.uint64_keeps _) nofun) <|
      .cons (Field.optional_carries (fun _ => rfl) (Codec.uint64_keeps _) nofun) <|
      .cons (Field.optional_carries (fun _ => rfl) (Codec.uint32_keeps _) nofun) <|
      .cons (Field.optional_carries (fun _ => rfl) (Codec.uint64_keeps _) nofun) <|
      .cons (Field.optional_carries (fun _ => rfl) (Codec.bool_keeps _) nofun) <|
      .cons (Field.optional_carries (fun _ => rfl) (Codec.bool_keeps _) nofun) <|
      .cons (Field.optional_carries (fun _ => rfl) (Codec.uint64_keeps _) nofun) <|
      .cons (Field.optional_carries (fun _ => rfl) (Codec.uint64_keeps _) nofun) <|
      .cons (Field.optional_carries (fun _ => rfl) (Codec.uint64_keeps _) nofun) <|
      .cons (Field.optional_carries (fun _ => rfl) (Compression.codec_keeps _) nofun) <|
      .cons (Field.optional_carries (fun _ => rfl) (Codec.int32_keeps _) nofun) <|
      .cons (Field.optional_carries (fun _ => rfl) (Compression.codec_keeps _) nofun) <|
      .cons (Field.optional_carries (fun _ => rfl) (Codec.int32_keeps _) nofun) <|
      .cons (Field.plain_carries (Codec.bool_keeps _ _)) <|
      .cons (Field.optional_carries (fun _ => rfl) (WarmUp.codec_keeps (depth + 2)) nofun) .nil) ?_
  simp [Record.changed, record]

theorem Discovery.codec_keeps (depth : Nat) (d : Discovery) : codec.Keeps (depth + 2) d := by
  have addresses : (Codec.list Codec.text).Keeps (depth + 1) d.addresses :=
    Codec.list_keeps fun a _ => Codec.text_keeps depth a
  refine Record.codec_keeps (by simp [record])
    (.cons (Field.plain_carries addresses) <|
      .cons (Field.optional_carries (fun _ => rfl) (Codec.uint16_keeps _) nofun) <|
      .cons (Field.optional_carries (fun _ => rfl) (Codec.uint16_keeps _) nofun) .nil) ?_
  simp [Record.changed, record]

/-- Overrides keep the exporters of a node a set. -/
theorem Node.apply_isSet {n : Node} (set : MetricExporter.IsSet n.metricExporters)
    (change : Node.Override) : MetricExporter.IsSet (n.apply change).metricExporters := by
  cases change with
  | metricExporters v => exact MetricExporter.arrange_isSet v
  | _ => exact set

/-- The exporters of a node that was decoded are a set. -/
theorem Node.decode_isSet {src : Source} {json : Json.Reading} {n : Node}
    (h : codec.decode src json = .ok n) : MetricExporter.IsSet n.metricExporters := by
  have decoded : record.decode src json = .ok n := h
  have start : MetricExporter.IsSet record.start.metricExporters := List.nil_sublist _
  refine Record.decode_preserves (P := fun n => MetricExporter.IsSet n.metricExporters) start ?_
    decoded
  simp only [record, List.forall_mem_cons]
  refine ⟨Field.plain_preserves fun _ _ => id, Field.plain_preserves fun _ _ => id,
    Field.optional_preserves fun _ _ => id, Field.plain_preserves fun _ _ => id,
    Field.sorted_preserves fun exporters _ _ => MetricExporter.arrange_isSet exporters,
    Field.plain_preserves fun _ _ => id, Field.optional_preserves fun _ _ => id,
    Field.optional_preserves fun _ _ => id, ?_⟩
  exact List.forall_mem_nil _

theorem Node.codec_keeps (depth : Nat) {n : Node} (set : MetricExporter.IsSet n.metricExporters) :
    codec.Keeps (depth + 5) n := by
  have item : ∀ e ∈ n.metricExporters, MetricExporter.codec.Keeps (depth + 3) e :=
    fun e _ => MetricExporter.codec_keeps _ e
  have exporters := Codec.sorted_keeps item (MetricExporter.arrange_of_isSet set)
  refine Record.codec_keeps (by simp [record])
    (.cons (Field.plain_carries (Version.codec_keeps _ _)) <|
      .cons (Field.plain_carries (Codec.bool_keeps _ _)) <|
      .cons (Field.optional_carries (fun _ => rfl) (Codec.text_keeps _) nofun) <|
      .cons (Field.plain_carries (Codec.bool_keeps _ _)) <|
      .cons (Field.listed_carries (fun _ => rfl) exporters) <|
      .cons (Field.plain_carries (Codec.uint64_keeps _ _)) <|
      .cons (Field.optional_carries (fun _ => rfl) (Discovery.codec_keeps (depth + 2))
        Discovery.record.codec_there) <|
      .cons (Field.optional_carries (fun _ => rfl) (Storage.codec_keeps depth)
        Storage.record.codec_there) .nil) ?_
  simp [Record.changed, record]

theorem ClusterBounds.codec_keeps (depth : Nat) (b : ClusterBounds) : codec.Keeps (depth + 1) b :=
  Record.codec_keeps (by simp [record])
    (.cons (Field.plain_carries (Codec.uint64_keeps _ _)) <|
      .cons (Field.plain_carries (Codec.uint64_keeps _ _)) .nil) rfl

theorem ApplicationBounds.codec_keeps (depth : Nat) (b : ApplicationBounds) :
    codec.Keeps (depth + 1) b :=
  Record.codec_keeps (by simp [record])
    (.cons (Field.plain_carries (Codec.uint64_keeps _ _)) .nil) rfl

theorem TopologyCheck.codec_keeps (depth : Nat) (c : TopologyCheck) : codec.Keeps (depth + 1) c :=
  Record.codec_keeps (by simp [record])
    (.cons (Field.plain_carries (Codec.uint64_keeps _ _)) <|
      .cons (Field.plain_carries (Codec.uint64_keeps _ _)) .nil) rfl

theorem Harness.codec_keeps (depth : Nat) (h : Harness) : codec.Keeps (depth + 2) h :=
  Record.codec_keeps (by simp [record])
    (.cons (Field.plain_carries (ClusterBounds.codec_keeps depth _)) <|
      .cons (Field.plain_carries (ApplicationBounds.codec_keeps depth _)) <|
      .cons (Field.plain_carries (TopologyCheck.codec_keeps depth _)) .nil) rfl

end Config

end ClusterHarness
