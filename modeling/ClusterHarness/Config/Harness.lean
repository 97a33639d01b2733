import ClusterHarness.Config.Violation
import ClusterHarness.Schema.Record

/-!
# Harness settings

The bounds that the harness puts on its collaborators. All times are in milliseconds.
-/

namespace ClusterHarness.Config

/-! The bounds that hold where nothing is set. -/

def defaultStartupTimeout : UInt64 := 60000

def defaultShutdownTimeout : UInt64 := 10000

def defaultAwaitStoppedTimeout : UInt64 := 60000

def defaultCheckTimeout : UInt64 := 10000

def defaultPollInterval : UInt64 := 100

structure ClusterBounds where
  /-- How long all members may take to join. -/
  startupTimeout : UInt64 := defaultStartupTimeout
  shutdownTimeout : UInt64 := defaultShutdownTimeout
  deriving Repr, DecidableEq

structure ApplicationBounds where
  awaitStoppedTimeout : UInt64 := defaultAwaitStoppedTimeout
  deriving Repr, DecidableEq

structure TopologyCheck where
  checkTimeout : UInt64 := defaultCheckTimeout
  pollInterval : UInt64 := defaultPollInterval
  deriving Repr, DecidableEq

structure Harness where
  cluster : ClusterBounds := {}
  application : ApplicationBounds := {}
  topology : TopologyCheck := {}
  deriving Repr, DecidableEq

open Schema

namespace ClusterBounds

def record : Record ClusterBounds where
  name := "struct ClusterServiceConfig"
  start := { startupTimeout := defaultStartupTimeout, shutdownTimeout := defaultShutdownTimeout }
  whole := false
  fields :=
    [.plain "startup_timeout_in_ms" .uint64 startupTimeout
       fun v b => { b with startupTimeout := v },
     .plain "shutdown_timeout_in_ms" .uint64 shutdownTimeout
       fun v b => { b with shutdownTimeout := v }]

def codec : Codec ClusterBounds := record.codec

def validate (b : ClusterBounds) : Except Violation Unit := do
  require (b.startupTimeout != 0) .startupTimeout
  require (b.shutdownTimeout != 0) .shutdownTimeout

end ClusterBounds

namespace ApplicationBounds

def record : Record ApplicationBounds where
  name := "struct ApplicationServiceConfig"
  start := { awaitStoppedTimeout := defaultAwaitStoppedTimeout }
  whole := false
  fields :=
    [.plain "await_stopped_timeout_in_ms" .uint64 awaitStoppedTimeout
       fun v b => { b with awaitStoppedTimeout := v }]

def codec : Codec ApplicationBounds := record.codec

def validate (b : ApplicationBounds) : Except Violation Unit :=
  require (b.awaitStoppedTimeout != 0) .awaitStoppedTimeout

end ApplicationBounds

namespace TopologyCheck

def record : Record TopologyCheck where
  name := "struct TopologyCheckConfig"
  start := { checkTimeout := defaultCheckTimeout, pollInterval := defaultPollInterval }
  whole := false
  fields :=
    [.plain "check_timeout_in_ms" .uint64 checkTimeout fun v c => { c with checkTimeout := v },
     .plain "poll_interval_in_ms" .uint64 pollInterval fun v c => { c with pollInterval := v }]

def codec : Codec TopologyCheck := record.codec

/-- Neither time may be zero, and the interval may not exceed the timeout. -/
def validate (c : TopologyCheck) : Except Violation Unit := do
  require (c.checkTimeout != 0 && c.pollInterval != 0) .topologyTimes
  require (c.pollInterval ≤ c.checkTimeout) (.pollInterval c.pollInterval c.checkTimeout)

end TopologyCheck

namespace Harness

/-- The settings that hold where nothing is set. -/
def default : Harness := {}

def record : Record Harness where
  name := "struct HarnessConfig"
  start := { cluster := {}, application := {}, topology := {} }
  whole := false
  fields :=
    [.plain "cluster" ClusterBounds.codec cluster fun v h => { h with cluster := v },
     .plain "application" ApplicationBounds.codec application
       fun v h => { h with application := v },
     .plain "topology" TopologyCheck.codec topology fun v h => { h with topology := v }]

def codec : Codec Harness := record.codec

/-- Checks every section. -/
def validate (h : Harness) : Except Violation Unit := do
  h.cluster.validate
  h.application.validate
  h.topology.validate

end Harness

end ClusterHarness.Config
