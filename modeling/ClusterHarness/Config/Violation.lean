import ClusterHarness.Text.Numeral
import ClusterHarness.Version

/-!
# Violations

The rules that configurations can violate, one constructor for each, and the words for them.
-/

namespace ClusterHarness.Config

/-- Which of the two page compressions of a storage configuration is meant. -/
inductive CompressionUse where
  | walPages
  | checkpointRecovery
  deriving Repr, DecidableEq

/-- The field of the algorithm. The field of its level has `_level` behind that. -/
def CompressionUse.field : CompressionUse → String
  | .walPages => "wal_page_compression"
  | .checkpointRecovery => "checkpoint_recovery_data_compression"

/-- A rule that a configuration violates. -/
inductive Violation where
  | version (fault : Version.Fault)
  | blankRegionName
  | regionOversized (name : String) (initial max : UInt64)
  | regionRateInterval (name : String)
  | regionPageBuffer (name : String)
  | duplicateRegion (name : String)
  | pageSize (size : UInt32)
  | walSegmentSize (size : UInt64)
  | walBufferSize
  | checkpointFrequency
  | metricsRateInterval
  | levelWithoutAlgorithm (use : CompressionUse)
  | levelOutOfRange (use : CompressionUse) (level low high : Int) (algorithm : String)
  | levelUnsupported (use : CompressionUse) (algorithm : String)
  | addressWithoutPort (address : String)
  | localPortZero
  | failureDetectionTimeout
  | blankConsistentId
  | startupTimeout
  | shutdownTimeout
  | awaitStoppedTimeout
  | topologyTimes
  | pollInterval (interval timeout : UInt64)
  /-- A violation that a collaborator reports in its own words. -/
  | reported (text : String)
  deriving Repr, DecidableEq

namespace Violation

/-- The least and the largest page size in bytes. -/
def minPageSize : UInt32 := 1024

def maxPageSize : UInt32 := 16 * 1024

/-- The least size of a segment of the write-ahead log in bytes. -/
def minWalSegmentSize : UInt64 := 512 * 1024

def message : Violation → String
  | .version fault => fault.message
  | .blankRegionName => "data region name cannot be empty"
  | .regionOversized name initial max =>
    "data region '" ++ name ++ "': initial_size " ++ Text.natText initial.toNat
      ++ " exceeds max_size " ++ Text.natText max.toNat
  | .regionRateInterval name =>
    "data region '" ++ name ++ "': metrics_rate_time_interval must be > 0"
  | .regionPageBuffer name =>
    "data region '" ++ name ++ "': checkpoint_page_buffer_size must be > 0"
  | .duplicateRegion name => "Duplicate data region name '" ++ name ++ "'"
  | .pageSize size =>
    "page_size " ++ Text.natText size.toNat ++ " must be a power of two between "
      ++ Text.natText minPageSize.toNat ++ " and " ++ Text.natText maxPageSize.toNat
  | .walSegmentSize size =>
    "wal_segment_size " ++ Text.natText size.toNat ++ " is below the minimum of "
      ++ Text.natText minWalSegmentSize.toNat ++ " bytes"
  | .walBufferSize => "wal_buffer_size must be > 0"
  | .checkpointFrequency => "checkpoint_frequency must be > 0"
  | .metricsRateInterval => "metrics_rate_time_interval must be > 0"
  | .levelWithoutAlgorithm use => use.field ++ "_level is set but " ++ use.field ++ " is not"
  | .levelOutOfRange use level low high algorithm =>
    use.field ++ "_level " ++ Text.intText level ++ " is out of range " ++ Text.intText low
      ++ "..=" ++ Text.intText high ++ " for " ++ algorithm
  | .levelUnsupported use algorithm => use.field ++ "_level is not supported by " ++ algorithm
  | .addressWithoutPort address => "discovery address '" ++ address ++ "' must be host:port"
  | .localPortZero => "discovery local_port cannot be 0"
  | .failureDetectionTimeout => "failure_detection_timeout must be > 0"
  | .blankConsistentId => "consistent_id cannot be empty"
  | .startupTimeout => "cluster.startup_timeout_in_ms must be > 0"
  | .shutdownTimeout => "cluster.shutdown_timeout_in_ms must be > 0"
  | .awaitStoppedTimeout => "application.await_stopped_timeout_in_ms must be > 0"
  | .topologyTimes => "topology check timeout and poll interval must be > 0"
  | .pollInterval interval timeout =>
    "topology.poll_interval_in_ms " ++ Text.natText interval.toNat
      ++ " exceeds check_timeout_in_ms " ++ Text.natText timeout.toNat
  | .reported text => text

end Violation

/-- Checks a rule. -/
def require (holds : Bool) (otherwise : Violation) : Except Violation Unit :=
  if holds then .ok () else .error otherwise

end ClusterHarness.Config
