import ClusterHarness.Config.Violation
import ClusterHarness.Config.WarmUp
import ClusterHarness.Schema.Override
import ClusterHarness.Schema.Record

/-!
# Data regions

A data region is a named piece of memory of the storage engine: its sizes, its metrics, and how it is
loaded. Optional fields that are unset leave the engine's own default in effect.
-/

namespace ClusterHarness.Config

/-- Whether metrics are collected where nothing is said of them. -/
def defaultMetricsEnabled : Bool := true

namespace Region

/-- The name of the region that every storage configuration begins with. -/
def defaultName : String := "default"

def defaultInitialSize : UInt64 := 100 * 1024 * 1024

def defaultMaxSize : UInt64 := 512 * 1024 * 1024

end Region

/-- A data region of the storage engine. Sizes are in bytes and times in milliseconds. -/
structure Region where
  /-- Unique among the regions of one storage configuration. -/
  name : String := Region.defaultName
  persistenceEnabled : Bool := false
  initialSize : UInt64 := Region.defaultInitialSize
  maxSize : UInt64 := Region.defaultMaxSize
  metricsEnabled : Bool := defaultMetricsEnabled
  metricsRateTimeInterval : Option UInt64 := none
  checkpointPageBufferSize : Option UInt64 := none
  /-- Whether changes of the data are captured. -/
  cdcEnabled : Option Bool := none
  lazyMemoryAllocation : Option Bool := none
  warmUp : Option WarmUp := none
  deriving Repr, DecidableEq

namespace Region

/-- The region that every storage configuration begins with. -/
def default : Region := {}

/-- The default region under another name. -/
def named (name : String) : Region := { default with name }

inductive Override where
  | name (value : String)
  | persistenceEnabled (value : Bool)
  | initialSize (value : UInt64)
  | maxSize (value : UInt64)
  | metricsEnabled (value : Bool)
  | metricsRateTimeInterval (value : UInt64)
  | checkpointPageBufferSize (value : UInt64)
  | cdcEnabled (value : Bool)
  | lazyMemoryAllocation (value : Bool)
  | warmUp (value : WarmUp)
  deriving Repr, DecidableEq

def apply (r : Region) : Override → Region
  | .name v => { r with name := v }
  | .persistenceEnabled v => { r with persistenceEnabled := v }
  | .initialSize v => { r with initialSize := v }
  | .maxSize v => { r with maxSize := v }
  | .metricsEnabled v => { r with metricsEnabled := v }
  | .metricsRateTimeInterval v => { r with metricsRateTimeInterval := some v }
  | .checkpointPageBufferSize v => { r with checkpointPageBufferSize := some v }
  | .cdcEnabled v => { r with cdcEnabled := some v }
  | .lazyMemoryAllocation v => { r with lazyMemoryAllocation := some v }
  | .warmUp v => { r with warmUp := some v }

open Schema

def overrides : List (OverrideForm Override) :=
  [.of "name" .text .name,
   .of "persistence_enabled" .bool .persistenceEnabled,
   .of "initial_size" .uint64 .initialSize,
   .of "max_size" .uint64 .maxSize,
   .of "metrics_enabled" .bool .metricsEnabled,
   .of "metrics_rate_time_interval" .uint64 .metricsRateTimeInterval,
   .of "checkpoint_page_buffer_size" .uint64 .checkpointPageBufferSize,
   .of "cdc_enabled" .bool .cdcEnabled,
   .of "lazy_memory_allocation" .bool .lazyMemoryAllocation,
   .of "warm_up_configuration" WarmUp.codec .warmUp]

def record : Record Region where
  name := "struct DataRegionConfiguration"
  start :=
    { name := defaultName
      persistenceEnabled := false
      initialSize := defaultInitialSize
      maxSize := defaultMaxSize
      metricsEnabled := defaultMetricsEnabled
      metricsRateTimeInterval := none
      checkpointPageBufferSize := none
      cdcEnabled := none
      lazyMemoryAllocation := none
      warmUp := none }
  whole := false
  fields :=
    [.plain "name" .text name fun v r => { r with name := v },
     .plain "persistence_enabled" .bool persistenceEnabled
       fun v r => { r with persistenceEnabled := v },
     .plain "initial_size" .uint64 initialSize fun v r => { r with initialSize := v },
     .plain "max_size" .uint64 maxSize fun v r => { r with maxSize := v },
     .plain "metrics_enabled" .bool metricsEnabled fun v r => { r with metricsEnabled := v },
     .optional "metrics_rate_time_interval" .uint64 metricsRateTimeInterval
       fun v r => { r with metricsRateTimeInterval := v },
     .optional "checkpoint_page_buffer_size" .uint64 checkpointPageBufferSize
       fun v r => { r with checkpointPageBufferSize := v },
     .optional "cdc_enabled" .bool cdcEnabled fun v r => { r with cdcEnabled := v },
     .optional "lazy_memory_allocation" .bool lazyMemoryAllocation
       fun v r => { r with lazyMemoryAllocation := v },
     .optional "warm_up_configuration" WarmUp.codec warmUp fun v r => { r with warmUp := v }]

def codec : Codec Region := record.codec

/-- Checks the name and the sizes of the region. -/
def validate (r : Region) : Except Violation Unit := do
  require (!Text.isBlankText r.name) .blankRegionName
  require (r.initialSize ≤ r.maxSize) (.regionOversized r.name r.initialSize r.maxSize)
  require (r.metricsRateTimeInterval != some 0) (.regionRateInterval r.name)
  require (r.checkpointPageBufferSize != some 0) (.regionPageBuffer r.name)

end Region

end ClusterHarness.Config
