import ClusterHarness.Compute.Remote
import ClusterHarness.Proofs.Cluster.Topology
import ClusterHarness.Proofs.Compute.Wire
import ClusterHarness.Proofs.Text.Split

/-! # Jobs on their way

What sending a job asks of a cluster, and what it leaves there: only whose turn it is. What comes back
is the exception that the job ends with, and the wrapper around it is looked through.
-/

namespace ClusterHarness.Compute

theorem Failure.cause_ofRemote (e : UserException) : (Failure.ofRemote e).cause = .user e := by
  have marked (after : String) : Text.contains (marker ++ after) marker = true :=
    Text.contains_append_left (Text.contains_self marker) after
  simp only [cause, ofRemote, maxDepth, strip, String.append_assoc, marked, if_true]

namespace Shipment

open Cluster

/-- Sending a job passes the turn on and changes nothing else. -/
theorem send_ok {caller : Caller} {t u : Topology} {job : Job} {shipment : Shipment}
    (h : send caller t job = .ok (shipment, u)) :
    u = { t with picks := t.picks + 1 } ∧ shipment.payload = (Job.codec.encode job).compact := by
  simp only [send] at h
  split at h
  · cases h
  · split at h
    · cases h
    · rename_i server u picked
      cases h
      exact ⟨(Topology.nextRemoteServer?_eq_some picked).2, rfl⟩

/-- A job goes to the server whose turn it is, when classes are shared on both sides. -/
theorem send_of_turn {caller : Caller} {t u : Topology} {server : Member} (job : Job)
    (shared : caller.peerClassLoadingEnabled = true ∧ t.config.peerClassLoadingEnabled = true)
    (turn : t.nextRemoteServer? caller.id = some (server, u)) :
    send caller t job = .ok (⟨server, (Job.codec.encode job).compact⟩, u) := by
  simp only [send, shared.1, shared.2, turn]
  rfl

/-- What the server read is the job that was sent, and what the caller reads is its exception. -/
theorem answer_of_payload {s : Shipment} {job : Job}
    (h : s.payload = (Job.codec.encode job).compact) :
    s.answer = .error (.ofRemote (job.thrownOn s.server.id)) := by
  have read : Job.codec.ofText (Job.codec.encode job).compact = .ok job :=
    Schema.Codec.ofText_compact (Job.codec_keeps job) (by decide)
  simp only [answer, h, read, UserException.unmarshal_marshal, Except.mapError, bind, Except.bind]

end Shipment

end ClusterHarness.Compute
