import ClusterHarness.Cluster.Topology
import ClusterHarness.Compute.Failure
import ClusterHarness.Compute.Job
import ClusterHarness.Compute.Wire

/-!
# Remote execution

A client has its jobs executed on the servers of a cluster, each server in its turn. Jobs and the
exceptions that they end with travel as text. The code of a job reaches a server only through peer
class loading, which has to be enabled on both sides.
-/

namespace ClusterHarness.Compute

open Cluster

/-- A node as it calls others. -/
structure Caller where
  id : String
  peerClassLoadingEnabled : Bool
  deriving Repr, DecidableEq

/-- A job on its way to a server. -/
structure Shipment where
  server : Member
  payload : String
  deriving Repr, DecidableEq

/-- Text that cannot be understood as what it should stand for. -/
def notUnderstood : Schema.Fault → Failure
  | .malformed => .marshalling "syntax error"
  | .misfit m => .marshalling (m.message Binary64.compactText)

namespace Shipment

/-- Sends a job to the server whose turn it is. -/
def send (caller : Caller) (t : Topology) (job : Job) : Except Failure (Shipment × Topology) :=
  if !caller.peerClassLoadingEnabled || !t.config.peerClassLoadingEnabled then
    .error (.deployment job.name "peer class loading is disabled")
  else
    match t.nextRemoteServer? caller.id with
    | none => .error .emptyClusterGroup
    | some (server, t) => .ok (⟨server, (Job.codec.encode job).compact⟩, t)

/-- What the server answers. The exception is wrapped once it is back. -/
def answer (s : Shipment) : Answer := do
  let job ← (Job.codec.ofText s.payload).mapError notUnderstood
  let exception ← (UserException.unmarshal (job.thrownOn s.server.id).marshal).mapError notUnderstood
  .error (.ofRemote exception)

end Shipment

/-- Has a job executed on the server whose turn it is. -/
def Caller.execute (caller : Caller) (t : Topology) (job : Job) : Answer × Topology :=
  match Shipment.send caller t job with
  | .error failure => (.error failure, t)
  | .ok (shipment, t) => (shipment.answer, t)

end ClusterHarness.Compute
