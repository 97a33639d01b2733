import ClusterHarness.Compute.UserException
import ClusterHarness.Text.Split

/-!
# Failed compute calls

Why a call of a compute job fails. A node that executed a job wraps its failure, so that a failure
can be wrapped several times.
-/

namespace ClusterHarness.Compute

/-- Why a call fails. -/
inductive Failure where
  /-- Another node wrapped the failure of a job that it executed. -/
  | remoteJob (message : String) (cause : Failure)
  | user (exception : UserException)
  /-- No node can execute the job. -/
  | emptyClusterGroup
  | deployment (job reason : String)
  | marshalling (text : String)
  deriving Repr, DecidableEq

namespace Failure

def message : Failure → String
  | .remoteJob message _ => message
  | .user exception => exception.message
  | .emptyClusterGroup => "Cluster group is empty"
  | .deployment job reason => "Failed to deploy job " ++ job ++ ": " ++ reason
  | .marshalling text => "Marshalling failed: " ++ text

/-- The failures below this one, the outermost first. -/
def sources : Failure → List Failure
  | .remoteJob _ cause => cause :: cause.sources
  | _ => []

/-- What the message of a wrapper around a user exception contains. -/
def marker : String := "Remote job threw user exception"

/-- The wrapper that a node puts around a user exception. -/
def ofRemote (e : UserException) : Failure :=
  .remoteJob
    (marker ++ " (override or implement ComputeTask.result(..) method if you would like to have "
      ++ "automatic failover for this exception): " ++ e.message)
    (.user e)

/-- How many wrappers are looked through. -/
def maxDepth : Nat := 10

/-- Strips at most `depth` wrappers that carry the marker, from the outside on. -/
def strip : (depth : Nat) → Failure → Failure
  | depth + 1, .remoteJob message cause =>
    if Text.contains message marker then strip depth cause else .remoteJob message cause
  | _, failure => failure

/-- The failure of the job itself, as far as the wrappers are looked through. -/
def cause (failure : Failure) : Failure := failure.strip maxDepth

end Failure

/-- What a compute call answers. -/
abbrev Answer := Except Failure Json

end ClusterHarness.Compute
