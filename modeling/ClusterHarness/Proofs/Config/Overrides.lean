import ClusterHarness.Config.Node
import ClusterHarness.Proofs.Schema.Facet
import Mathlib.Data.List.DropRight

/-! # Overrides of configurations

Which field each override of a configuration is for, and what it makes of it. Here the fields of every
record stand beside each other, so that an override that wrote the field of a neighbour would show.
-/

namespace ClusterHarness.Config

open Schema

namespace Region

def facets : List (Facet Region Override) :=
  [.set name fun | .name v => some v | _ => none,
   .set persistenceEnabled fun | .persistenceEnabled v => some v | _ => none,
   .set initialSize fun | .initialSize v => some v | _ => none,
   .set maxSize fun | .maxSize v => some v | _ => none,
   .set metricsEnabled fun | .metricsEnabled v => some v | _ => none,
   .set metricsRateTimeInterval fun | .metricsRateTimeInterval v => some (some v) | _ => none,
   .set checkpointPageBufferSize fun | .checkpointPageBufferSize v => some (some v) | _ => none,
   .set cdcEnabled fun | .cdcEnabled v => some (some v) | _ => none,
   .set lazyMemoryAllocation fun | .lazyMemoryAllocation v => some (some v) | _ => none,
   .set warmUp fun | .warmUp v => some (some v) | _ => none]

theorem explains : Explains apply facets where
  whole := by
    rintro ⟨⟩ ⟨⟩ same
    simpa [facets, Facet.set] using same
  single w := by cases w <;> rfl
  step := by
    simp only [facets, List.forall_mem_cons, List.not_mem_nil, false_implies, implies_true, and_true]
    and_intros <;>
      · intro r w
        cases w <;> rfl

end Region

namespace Storage

/-- The regions are set all together, or one is added behind them. -/
def regionsFacet : Facet Storage Override where
  value := regions
  given? | .regions v => some v | _ => none
  addition? | .region v => some (· ++ [v]) | _ => none

def facets : List (Facet Storage Override) :=
  [.set defaultRegion fun | .defaultRegion v => some v | _ => none,
   regionsFacet,
   .set pageSize fun | .pageSize v => some (some v) | _ => none,
   .set walMode fun | .walMode v => some (some v) | _ => none,
   .set walPath fun | .walPath v => some (some v) | _ => none,
   .set walArchivePath fun | .walArchivePath v => some (some v) | _ => none,
   .set cdcWalPath fun | .cdcWalPath v => some (some v) | _ => none,
   .set walSegmentSize fun | .walSegmentSize v => some (some v) | _ => none,
   .set walBufferSize fun | .walBufferSize v => some (some v) | _ => none,
   .set walHistorySize fun | .walHistorySize v => some (some v) | _ => none,
   .set maxWalArchiveSize fun | .maxWalArchiveSize v => some (some v) | _ => none,
   .set walCompactionEnabled fun | .walCompactionEnabled v => some (some v) | _ => none,
   .set writeRecoveryDataOnCheckpoint
     fun | .writeRecoveryDataOnCheckpoint v => some (some v) | _ => none,
   .set walForceArchiveTimeout fun | .walForceArchiveTimeout v => some (some v) | _ => none,
   .set checkpointFrequency fun | .checkpointFrequency v => some (some v) | _ => none,
   .set metricsRateTimeInterval fun | .metricsRateTimeInterval v => some (some v) | _ => none,
   .set walPageCompression fun | .walPageCompression v => some (some v) | _ => none,
   .set walPageCompressionLevel fun | .walPageCompressionLevel v => some (some v) | _ => none,
   .set checkpointRecoveryDataCompression
     fun | .checkpointRecoveryDataCompression v => some (some v) | _ => none,
   .set checkpointRecoveryDataCompressionLevel
     fun | .checkpointRecoveryDataCompressionLevel v => some (some v) | _ => none,
   .set metricsEnabled fun | .metricsEnabled v => some v | _ => none,
   .set defaultWarmUp fun | .defaultWarmUp v => some (some v) | _ => none]

theorem explains : Explains apply facets where
  whole := by
    rintro ⟨⟩ ⟨⟩ same
    simpa [facets, Facet.set, regionsFacet] using same
  single w := by cases w <;> rfl
  step := by
    simp only [facets, List.forall_mem_cons, List.not_mem_nil, false_implies, implies_true, and_true]
    and_intros <;>
      · intro s w
        cases w <;> rfl

/-- Regions that are added stand behind those that were set last, or behind those that were there. -/
theorem regions_foldl (s : Storage) (steps : List Override) :
    (steps.foldl apply s).regions =
      (steps.reverse.findSome? fun | .regions v => some v | _ => none).getD s.regions ++
        (steps.rtakeWhile fun w => !(w matches .regions _)).filterMap
          fun | .region v => some v | _ => none := by
  induction steps using List.reverseRecOn with
  | nil => simp
  | append_singleton steps w ih =>
      rw [List.foldl_concat, List.reverse_concat, List.findSome?_cons]
      cases w with
      | regions v => simp [apply]
      | region v => simp [apply, ih]
      | _ => simpa [apply] using ih

end Storage

namespace Discovery

/-- No override changes the addresses. -/
def facets : List (Facet Discovery Override) :=
  [.set addresses fun _ => none,
   .set localPort fun | .localPort v => some (some v) | _ => none,
   .set localPortRange fun | .localPortRange v => some (some v) | _ => none]

theorem explains : Explains apply facets where
  whole := by
    rintro ⟨⟩ ⟨⟩ same
    simpa [facets, Facet.set] using same
  single w := by cases w <;> rfl
  step := by
    simp only [facets, List.forall_mem_cons, List.not_mem_nil, false_implies, implies_true, and_true]
    and_intros <;>
      · intro d w
        cases w <;> rfl

end Discovery

namespace Node

def facets : List (Facet Node Override) :=
  [.set version fun | .version v => some v | _ => none,
   .set clientMode fun | .clientMode v => some v | _ => none,
   .set consistentId fun | .consistentId v => some (some v) | _ => none,
   .set peerClassLoadingEnabled fun | .peerClassLoadingEnabled v => some v | _ => none,
   .set metricExporters fun | .metricExporters v => some (MetricExporter.arrange v) | _ => none,
   .set failureDetectionTimeout fun | .failureDetectionTimeout v => some v | _ => none,
   .set discovery fun | .discovery v => some (some v) | _ => none,
   .set storage fun | .storage v => some (some v) | _ => none]

theorem explains : Explains apply facets where
  whole := by
    rintro ⟨⟩ ⟨⟩ same
    simpa [facets, Facet.set] using same
  single w := by cases w <;> rfl
  step := by
    simp only [facets, List.forall_mem_cons, List.not_mem_nil, false_implies, implies_true, and_true]
    and_intros <;>
      · intro n w
        cases w <;> rfl

end Node

/-- Every override of a configuration touches the one field that it is for. The last one of a field
counts, those of different fields may change places, and any may be applied twice, but for the one that
adds a region. The configuration of a client is that of its servers with two fields changed. -/
theorem overrides_touch_what_they_name :
    Faithful Region.apply Region.facets ∧ Faithful Storage.apply Storage.facets ∧
    Faithful Discovery.apply Discovery.facets ∧ Faithful Node.apply Node.facets ∧
    (∀ facet ∈ Region.facets, facet.IsPlain) ∧ (∀ facet ∈ Discovery.facets, facet.IsPlain) ∧
    (∀ facet ∈ Node.facets, facet.IsPlain) ∧
    (∀ facet ∈ Storage.facets, facet = Storage.regionsFacet ∨ facet.IsPlain) ∧
    (∀ w, Storage.regionsFacet.adds w = true ↔ ∃ v, w = .region v) ∧
    (∀ (s : Storage) (steps : List Storage.Override), (steps.foldl Storage.apply s).regions =
      (steps.reverse.findSome? fun | .regions v => some v | _ => none).getD s.regions ++
        (steps.rtakeWhile fun w => !(w matches .regions _)).filterMap
          fun | .region v => some v | _ => none) ∧
    (∀ (s : Storage) v, (s.apply (.region v)).apply (.region v) ≠ s.apply (.region v)) ∧
    (∀ exporters : List MetricExporter,
      (MetricExporter.arrange exporters).Sublist [.jmx, .log, .openCensus] ∧
        ∀ e, e ∈ MetricExporter.arrange exporters ↔ e ∈ exporters) ∧
    ∀ (n : Node) addresses, n.asClient addresses =
      { n with clientMode := true, discovery := some { addresses } } := by
  refine ⟨Region.explains.faithful, Storage.explains.faithful, Discovery.explains.faithful,
    Node.explains.faithful, ?_, ?_, ?_, ?_, ?_, Storage.regions_foldl, ?_, ?_, fun _ _ => rfl⟩
  · simp [Region.facets, Facet.isPlain_set]
  · simp [Discovery.facets, Facet.isPlain_set]
  · simp [Node.facets, Facet.isPlain_set]
  · simp [Storage.facets, Facet.isPlain_set]
  · intro w
    cases w <;> simp [Facet.adds, Storage.regionsFacet]
  · intro s v same
    have regions := congrArg (fun s => s.regions.length) same
    simp [Storage.apply] at regions
  · intro exporters
    refine ⟨List.filter_sublist, fun e => ?_⟩
    have listed : e ∈ [MetricExporter.jmx, .log, .openCensus] := by cases e <;> decide
    rw [MetricExporter.arrange, List.mem_filter, decide_eq_true_iff, and_iff_right listed]

end ClusterHarness.Config
