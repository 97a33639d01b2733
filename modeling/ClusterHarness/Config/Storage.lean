import ClusterHarness.Config.Region

/-!
# Storage configurations

The storage engine as a whole: the default region and the additional ones, the write-ahead log,
checkpoints and page compression. Main operations: look a region up by its name, and check every rule
that the engine puts on a configuration.
-/

namespace ClusterHarness.Config

/-- How far the write-ahead log is written before a change counts as done. -/
inductive WalMode where
  | fsync
  | logOnly
  | background
  | none
  deriving Repr, DecidableEq

namespace WalMode

/-- The name of the mode in configurations. -/
def label : WalMode → String
  | .fsync => "FSYNC"
  | .logOnly => "LOG_ONLY"
  | .background => "BACKGROUND"
  | .none => "NONE"

def variants : Schema.Enumeration WalMode :=
  ⟨"WalMode", [.fsync, .logOnly, .background, .none], label⟩

/-- A mode is written as its name. -/
def codec : Schema.Codec WalMode := variants.codec

end WalMode

/-- An algorithm that pages are compressed with. -/
inductive Compression where
  | disabled
  | skipGarbage
  | zstd
  | lz4
  | snappy
  deriving Repr, DecidableEq

namespace Compression

/-- The name of the algorithm in configurations. -/
def label : Compression → String
  | .disabled => "DISABLED"
  | .skipGarbage => "SKIP_GARBAGE"
  | .zstd => "ZSTD"
  | .lz4 => "LZ4"
  | .snappy => "SNAPPY"

/-- The algorithms by name. -/
def variants : Schema.Enumeration Compression :=
  ⟨"DiskPageCompression", [.disabled, .skipGarbage, .zstd, .lz4, .snappy], label⟩

/-- An algorithm is written as its name. -/
def codec : Schema.Codec Compression := variants.codec

/-- The least and the largest level of an algorithm that takes levels. -/
def levelRange? : Compression → Option (Int × Int)
  | .zstd => some (-131072, 22)
  | .lz4 => some (0, 17)
  | _ => Option.none

def checkLevel (use : CompressionUse) : Option Compression → Option Int32 → Except Violation Unit
  | _, Option.none => .ok ()
  | Option.none, some _ => .error (.levelWithoutAlgorithm use)
  | some algorithm, some level =>
    match algorithm.levelRange? with
    | some (low, high) =>
      require (low ≤ level.toInt && level.toInt ≤ high)
        (.levelOutOfRange use level.toInt low high algorithm.label)
    | Option.none => .error (.levelUnsupported use algorithm.label)

end Compression

/-- A configuration of the storage engine. Sizes are in bytes and times in milliseconds. -/
structure Storage where
  defaultRegion : Region := .default
  /-- The regions beside the default one, in declaration order. -/
  regions : List Region := []
  pageSize : Option UInt32 := none
  walMode : Option WalMode := none
  walPath : Option String := none
  walArchivePath : Option String := none
  cdcWalPath : Option String := none
  walSegmentSize : Option UInt64 := none
  walBufferSize : Option UInt64 := none
  /-- How many checkpoints the log goes back. -/
  walHistorySize : Option UInt32 := none
  maxWalArchiveSize : Option UInt64 := none
  walCompactionEnabled : Option Bool := none
  writeRecoveryDataOnCheckpoint : Option Bool := none
  walForceArchiveTimeout : Option UInt64 := none
  checkpointFrequency : Option UInt64 := none
  metricsRateTimeInterval : Option UInt64 := none
  walPageCompression : Option Compression := none
  /-- The level of `walPageCompression`. -/
  walPageCompressionLevel : Option Int32 := none
  checkpointRecoveryDataCompression : Option Compression := none
  /-- The level of `checkpointRecoveryDataCompression`. -/
  checkpointRecoveryDataCompressionLevel : Option Int32 := none
  metricsEnabled : Bool := defaultMetricsEnabled
  defaultWarmUp : Option WarmUp := none
  deriving Repr, DecidableEq

namespace Storage

/-- A configuration with nothing set. -/
def default : Storage := {}

/-- The default region and then the additional ones. -/
def allRegions (s : Storage) : List Region := s.defaultRegion :: s.regions

def region? (s : Storage) (name : String) : Option Region :=
  s.allRegions.find? fun r => r.name == name

inductive Override where
  | defaultRegion (value : Region)
  /-- Replaces the additional regions. -/
  | regions (value : List Region)
  /-- Adds one region behind the additional ones. -/
  | region (value : Region)
  | pageSize (value : UInt32)
  | walMode (value : WalMode)
  | walPath (value : String)
  | walArchivePath (value : String)
  | cdcWalPath (value : String)
  | walSegmentSize (value : UInt64)
  | walBufferSize (value : UInt64)
  | walHistorySize (value : UInt32)
  | maxWalArchiveSize (value : UInt64)
  | walCompactionEnabled (value : Bool)
  | writeRecoveryDataOnCheckpoint (value : Bool)
  | walForceArchiveTimeout (value : UInt64)
  | checkpointFrequency (value : UInt64)
  | metricsRateTimeInterval (value : UInt64)
  | walPageCompression (value : Compression)
  | walPageCompressionLevel (value : Int32)
  | checkpointRecoveryDataCompression (value : Compression)
  | checkpointRecoveryDataCompressionLevel (value : Int32)
  | metricsEnabled (value : Bool)
  | defaultWarmUp (value : WarmUp)
  deriving Repr, DecidableEq

def apply (s : Storage) : Override → Storage
  | .defaultRegion v => { s with defaultRegion := v }
  | .regions v => { s with regions := v }
  | .region v => { s with regions := s.regions ++ [v] }
  | .pageSize v => { s with pageSize := some v }
  | .walMode v => { s with walMode := some v }
  | .walPath v => { s with walPath := some v }
  | .walArchivePath v => { s with walArchivePath := some v }
  | .cdcWalPath v => { s with cdcWalPath := some v }
  | .walSegmentSize v => { s with walSegmentSize := some v }
  | .walBufferSize v => { s with walBufferSize := some v }
  | .walHistorySize v => { s with walHistorySize := some v }
  | .maxWalArchiveSize v => { s with maxWalArchiveSize := some v }
  | .walCompactionEnabled v => { s with walCompactionEnabled := some v }
  | .writeRecoveryDataOnCheckpoint v => { s with writeRecoveryDataOnCheckpoint := some v }
  | .walForceArchiveTimeout v => { s with walForceArchiveTimeout := some v }
  | .checkpointFrequency v => { s with checkpointFrequency := some v }
  | .metricsRateTimeInterval v => { s with metricsRateTimeInterval := some v }
  | .walPageCompression v => { s with walPageCompression := some v }
  | .walPageCompressionLevel v => { s with walPageCompressionLevel := some v }
  | .checkpointRecoveryDataCompression v =>
    { s with checkpointRecoveryDataCompression := some v }
  | .checkpointRecoveryDataCompressionLevel v =>
    { s with checkpointRecoveryDataCompressionLevel := some v }
  | .metricsEnabled v => { s with metricsEnabled := v }
  | .defaultWarmUp v => { s with defaultWarmUp := some v }

open Schema

def overrides : List (OverrideForm Override) :=
  [.of "default_region" Region.codec .defaultRegion,
   .of "regions" (.list Region.codec) .regions,
   .of "region" Region.codec .region,
   .of "page_size" .uint32 .pageSize,
   .of "wal_mode" WalMode.codec .walMode,
   .of "wal_path" .text .walPath,
   .of "wal_archive_path" .text .walArchivePath,
   .of "cdc_wal_path" .text .cdcWalPath,
   .of "wal_segment_size" .uint64 .walSegmentSize,
   .of "wal_buffer_size" .uint64 .walBufferSize,
   .of "wal_history_size" .uint32 .walHistorySize,
   .of "max_wal_archive_size" .uint64 .maxWalArchiveSize,
   .of "wal_compaction_enabled" .bool .walCompactionEnabled,
   .of "write_recovery_data_on_checkpoint" .bool .writeRecoveryDataOnCheckpoint,
   .of "wal_force_archive_timeout" .uint64 .walForceArchiveTimeout,
   .of "checkpoint_frequency" .uint64 .checkpointFrequency,
   .of "metrics_rate_time_interval" .uint64 .metricsRateTimeInterval,
   .of "wal_page_compression" Compression.codec .walPageCompression,
   .of "wal_page_compression_level" .int32 .walPageCompressionLevel,
   .of "checkpoint_recovery_data_compression" Compression.codec
     .checkpointRecoveryDataCompression,
   .of "checkpoint_recovery_data_compression_level" .int32
     .checkpointRecoveryDataCompressionLevel,
   .of "metrics_enabled" .bool .metricsEnabled,
   .of "default_warm_up_configuration" WarmUp.codec .defaultWarmUp]

def record : Record Storage where
  name := "struct DataStorageConfiguration"
  start :=
    { defaultRegion := .default
      regions := []
      pageSize := none
      walMode := none
      walPath := none
      walArchivePath := none
      cdcWalPath := none
      walSegmentSize := none
      walBufferSize := none
      walHistorySize := none
      maxWalArchiveSize := none
      walCompactionEnabled := none
      writeRecoveryDataOnCheckpoint := none
      walForceArchiveTimeout := none
      checkpointFrequency := none
      metricsRateTimeInterval := none
      walPageCompression := none
      walPageCompressionLevel := none
      checkpointRecoveryDataCompression := none
      checkpointRecoveryDataCompressionLevel := none
      metricsEnabled := defaultMetricsEnabled
      defaultWarmUp := none }
  whole := false
  fields :=
    [.plain "default" Region.codec defaultRegion fun v s => { s with defaultRegion := v },
     .listed "regions" (.list Region.codec) regions fun v s => { s with regions := v },
     .optional "page_size" .uint32 pageSize fun v s => { s with pageSize := v },
     .optional "wal_mode" WalMode.codec walMode fun v s => { s with walMode := v },
     .optional "wal_path" .text walPath fun v s => { s with walPath := v },
     .optional "wal_archive_path" .text walArchivePath fun v s => { s with walArchivePath := v },
     .optional "cdc_wal_path" .text cdcWalPath fun v s => { s with cdcWalPath := v },
     .optional "wal_segment_size" .uint64 walSegmentSize
       fun v s => { s with walSegmentSize := v },
     .optional "wal_buffer_size" .uint64 walBufferSize fun v s => { s with walBufferSize := v },
     .optional "wal_history_size" .uint32 walHistorySize
       fun v s => { s with walHistorySize := v },
     .optional "max_wal_archive_size" .uint64 maxWalArchiveSize
       fun v s => { s with maxWalArchiveSize := v },
     .optional "wal_compaction_enabled" .bool walCompactionEnabled
       fun v s => { s with walCompactionEnabled := v },
     .optional "write_recovery_data_on_checkpoint" .bool writeRecoveryDataOnCheckpoint
       fun v s => { s with writeRecoveryDataOnCheckpoint := v },
     .optional "wal_force_archive_timeout" .uint64 walForceArchiveTimeout
       fun v s => { s with walForceArchiveTimeout := v },
     .optional "checkpoint_frequency" .uint64 checkpointFrequency
       fun v s => { s with checkpointFrequency := v },
     .optional "metrics_rate_time_interval" .uint64 metricsRateTimeInterval
       fun v s => { s with metricsRateTimeInterval := v },
     .optional "wal_page_compression" Compression.codec walPageCompression
       fun v s => { s with walPageCompression := v },
     .optional "wal_page_compression_level" .int32 walPageCompressionLevel
       fun v s => { s with walPageCompressionLevel := v },
     .optional "checkpoint_recovery_data_compression" Compression.codec
       checkpointRecoveryDataCompression
       fun v s => { s with checkpointRecoveryDataCompression := v },
     .optional "checkpoint_recovery_data_compression_level" .int32
       checkpointRecoveryDataCompressionLevel
       fun v s => { s with checkpointRecoveryDataCompressionLevel := v },
     .plain "metrics_enabled" .bool metricsEnabled fun v s => { s with metricsEnabled := v },
     .optional "default_warm_up_configuration" WarmUp.codec defaultWarmUp
       fun v s => { s with defaultWarmUp := v }]

def codec : Codec Storage := record.codec

/-- Checks regions one after the other, each against the names of those before it. -/
def checkRegions (seen : List String) : List Region → Except Violation Unit
  | [] => .ok ()
  | r :: rest => do
    r.validate
    require (r.name ∉ seen) (.duplicateRegion r.name)
    checkRegions (r.name :: seen) rest

/-- Whether the engine accepts a page size: a power of two within bounds. -/
def acceptsPageSize (size : UInt32) : Bool :=
  1 <<< Nat.log2 size.toNat == size.toNat && Violation.minPageSize ≤ size
    && size ≤ Violation.maxPageSize

/-- Checks the regions, the sizes and times, and the levels of compression. -/
def validate (s : Storage) : Except Violation Unit := do
  checkRegions [] s.allRegions
  if let some size := s.pageSize then require (acceptsPageSize size) (.pageSize size)
  if let some size := s.walSegmentSize then
    require (Violation.minWalSegmentSize ≤ size) (.walSegmentSize size)
  require (s.walBufferSize != some 0) .walBufferSize
  require (s.checkpointFrequency != some 0) .checkpointFrequency
  require (s.metricsRateTimeInterval != some 0) .metricsRateInterval
  Compression.checkLevel .walPages s.walPageCompression s.walPageCompressionLevel
  Compression.checkLevel .checkpointRecovery s.checkpointRecoveryDataCompression
    s.checkpointRecoveryDataCompressionLevel

end Storage

end ClusterHarness.Config
