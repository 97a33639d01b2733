import ClusterHarness.Config.Violation
import ClusterHarness.Files
import ClusterHarness.Settings.Fault
import ClusterHarness.Text.Duration

/-!
# Errors

Everything that can go wrong in the harness, by its cause, and the words for it.
-/

namespace ClusterHarness

/-- Why a service does not start. -/
inductive StartObstacle where
  | noMembers
  | clientMode
  | noPort (member : Nat)
  | addressTaken (address : String)
  | alreadyInTopology (id : String)
  | versionMismatch (version cluster : Version)
  /-- An obstacle that a collaborator reports in its own words. -/
  | reported (text : String)
  deriving Repr, DecidableEq

def StartObstacle.message : StartObstacle → String
  | .noMembers => "at least one member is required"
  | .clientMode => "server members cannot run in client mode"
  | .noPort member => "no discovery port left for member " ++ Text.natText member
  | .addressTaken address => "address " ++ address ++ " already in use"
  | .alreadyInTopology id => "node " ++ id ++ " is already in topology"
  | .versionMismatch version cluster =>
    "version " ++ version.display ++ " does not match cluster version " ++ cluster.display
  | .reported text => text

/-- Why no cluster is found. -/
inductive DiscoveryFault where
  | notConfigured (entryPoint : String)
  | unreachable (addresses : List String)
  /-- A fault that a collaborator reports in its own words. -/
  | reported (text : String)
  deriving Repr, DecidableEq

def DiscoveryFault.message : DiscoveryFault → String
  | .notConfigured entryPoint => entryPoint ++ " has no discovery configured"
  | .unreachable addresses => "no cluster reachable at " ++ Text.quotedList addresses
  | .reported text => text

inductive Error where
  /-- Harness settings cannot be loaded. -/
  | settings (fault : Settings.Fault)
  | invalidConfig (violation : Config.Violation)
  | startupFailed (service : String) (obstacle : StartObstacle)
  /-- A bounded wait ended, after so many milliseconds. -/
  | timeout (operation : String) (limit : Nat)
  | notStarted (service : String)
  | alreadyStarted (service : String)
  | discoveryFailed (fault : DiscoveryFault)
  | unknownEntryPoint (entryPoint : String)
  | applicationFailed (entryPoint reason : String)
  | topologyMismatch (expected observed : Nat)
  | assertion (text : String)
  /-- A test cannot be run in its context. -/
  | invalidContext (text : String)
  | unwritten (path : String) (fault : FileFault)
  | xml (text : String)
  | fatal (text : String)
  /-- Room is asked for that no memory could have. The call does not return this but panics with it. -/
  | capacityOverflow
  deriving Repr, DecidableEq

def Error.message : Error → String
  | .settings fault => fault.message
  | .invalidConfig violation => "Invalid configuration: " ++ violation.message
  | .startupFailed service obstacle =>
    "Failed to start " ++ service ++ ": " ++ obstacle.message
  | .timeout operation limit => operation ++ " timed out after " ++ Text.durationText limit
  | .notStarted service => "Service " ++ service ++ " is not started"
  | .alreadyStarted service => "Service " ++ service ++ " is already started"
  | .discoveryFailed fault => "Discovery failed: " ++ fault.message
  | .unknownEntryPoint entryPoint => "Unknown application entry point: " ++ entryPoint
  | .applicationFailed entryPoint reason =>
    "Application " ++ entryPoint ++ " failed: " ++ reason
  | .topologyMismatch expected observed =>
    "Topology mismatch: expected " ++ Text.natText expected ++ ", observed "
      ++ Text.natText observed
  | .assertion text => "Assertion failed: " ++ text
  | .invalidContext text => "Invalid test context: " ++ text
  | .unwritten path fault => "Failed to write " ++ path ++ ": " ++ fault.message
  | .xml text => "XML writer error: " ++ text
  | .fatal text => "Fatal error: " ++ text
  | .capacityOverflow => "capacity overflow"

end ClusterHarness
