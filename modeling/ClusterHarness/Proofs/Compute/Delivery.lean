import ClusterHarness.Proofs.Compute.Expectation
import ClusterHarness.Proofs.Compute.Remote

/-! # Exceptions that reach their caller

A job and the exception that it ends with cross between two nodes as texts. The caller reads the
exception that the job throws on the server, in one wrapper, and so an expectation is met just when
the exception itself meets it.
-/

namespace ClusterHarness.Compute

open Cluster

theorem Failure.contains_message_ofRemote (e : UserException) :
    Text.contains (Failure.ofRemote e).message marker = true ∧
      Text.contains (Failure.ofRemote e).message e.message = true := by
  have written : ∃ s t, (Failure.ofRemote e).message = marker ++ s ++ t ++ e.message := ⟨_, _, rfl⟩
  obtain ⟨s, t, written⟩ := written
  rw [written]
  constructor
  · apply Text.contains_append_left
    apply Text.contains_append_left
    exact Text.contains_append_left (Text.contains_self marker) _
  · exact Text.contains_append_right (Text.contains_self e.message) _

theorem assertThrows_ofRemote_iff {e expected : UserException} :
    assertThrows (.error (.ofRemote e)) expected = .ok () ↔
      e.kind.isInstanceOf expected.kind = true ∧ e.meets expected = .ok () := by
  by_cases kind : e.kind.isInstanceOf expected.kind = true
  · simp [assertThrows, Failure.exceptionOf?, Failure.cause_ofRemote, kind]
  · simp [assertThrows, Failure.exceptionOf?, Failure.cause_ofRemote, kind]

theorem detailsContain_some_iff {details : String} {expected : Option String} :
    detailsContain (some details) expected = true ↔
      ∀ part ∈ expected, Text.contains details part = true := by
  cases expected <;> simp [detailsContain]

/-- A job goes to the server whose turn it is, and the call fails with what the job throws there. -/
theorem Caller.execute_of_turn {caller : Caller} {t u : Topology} {server : Member} (job : Job)
    (shared : caller.peerClassLoadingEnabled = true ∧ t.config.peerClassLoadingEnabled = true)
    (turn : t.nextRemoteServer? caller.id = some (server, u)) :
    caller.execute t job = (.error (.ofRemote (job.thrownOn server.id)), u) := by
  have answer : Shipment.answer ⟨server, (Job.codec.encode job).compact⟩ = _ :=
    Shipment.answer_of_payload rfl
  simp only [execute, Shipment.send_of_turn job shared turn, answer]

/-- With classes shared on both sides and a server beside the caller, every job is executed on the
server whose turn it is, and fails with a wrapper around exactly what it throws there. -/
theorem exception_reaches_caller (caller : Caller) (t : Topology) (way : JobKind)
    (kind : ExceptionKind) (text : String) (code : Int32) (argument : String)
    (mine : caller.peerClassLoadingEnabled = true) (theirs : t.config.peerClassLoadingEnabled = true)
    (someone : ∃ m ∈ t.members, m.client = false ∧ m.id ≠ caller.id) :
    let job : Job := ⟨way, .throw kind text code, argument⟩
    ∃ server u message, t.nextRemoteServer? caller.id = some (server, u) ∧
      server ∈ t.members ∧ server.client = false ∧ server.id ≠ caller.id ∧
      caller.execute t job = (.error (.remoteJob message (.user (job.thrownOn server.id))), u) ∧
      Text.contains message Failure.marker = true ∧ Text.contains message text = true ∧
      (Failure.remoteJob message (.user (job.thrownOn server.id))).cause =
        .user (job.thrownOn server.id) ∧
      job.thrownOn server.id =
        { kind, message := text, code, details := some argument
          stackTrace := ["JobClosure.apply(" ++ server.id ++ ")"] } ∧
      ∀ expected : UserException, assertThrows (caller.execute t job).1 expected = .ok () ↔
        kind.isInstanceOf expected.kind = true ∧ Text.contains text expected.message = true ∧
          code = expected.code ∧ ∀ part ∈ expected.details, Text.contains argument part = true := by
  intro job
  obtain ⟨m, there, client, other⟩ := someone
  have remote : m ∈ t.remoteServers caller.id := by
    simp [Topology.remoteServers, there, client, other]
  obtain ⟨server, chosen, turn⟩ := Topology.nextRemoteServer?_of_mem remote
  obtain ⟨present, serves⟩ := List.mem_filter.mp chosen
  rw [Bool.and_eq_true, Bool.not_eq_true', bne_iff_ne] at serves
  have answer := Caller.execute_of_turn job ⟨mine, theirs⟩ turn
  have texts := Failure.contains_message_ofRemote (job.thrownOn server.id)
  refine ⟨server, _, _, turn, present, serves.1, serves.2, answer, texts.1, texts.2,
    Failure.cause_ofRemote _, rfl, ?_⟩
  intro expected
  rw [answer, assertThrows_ofRemote_iff, UserException.meets_iff, ← detailsContain_some_iff]
  simp [job, Job.thrownOn, Closure.thrownOn]

/-- A cluster with two servers for the node `me` to call, the second of them next. -/
def crowded : Topology where
  name := "ignite"
  config := { peerClassLoadingEnabled := true }
  version := 4
  members := [{ id := "a" }, { id := "b", client := true }, { id := "me" }, { id := "z\"\\" }]
  picks := 3

theorem exception_reaches_caller_crowded :
    let caller : Caller := ⟨"me", true⟩
    let job : Job := ⟨.apply, .throw .externalizable "first\nsecond" (-5), "\t\"ü\""⟩
    ∃ server u message, crowded.nextRemoteServer? "me" = some (server, u) ∧
      server.client = false ∧ server.id ≠ "me" ∧
      caller.execute crowded job = (.error (.remoteJob message (.user (job.thrownOn server.id))), u) ∧
      Text.contains message Failure.marker = true ∧
      assertThrows (caller.execute crowded job).1 ⟨.serializable, "second", -5, some "ü", []⟩ =
        .ok () := by
  intro caller job
  obtain ⟨server, u, message, turn, -, serves, other, answer, marked, -, -, -, accepts⟩ :=
    exception_reaches_caller caller crowded .apply .externalizable "first\nsecond" (-5) "\t\"ü\"" rfl rfl
      ⟨{ id := "a" }, by decide, rfl, by decide⟩
  refine ⟨server, u, message, turn, serves, other, answer, marked, (accepts _).mpr ⟨rfl, ?_, rfl, ?_⟩⟩
  · decide +kernel
  · rintro part ⟨⟩
    decide +kernel

end ClusterHarness.Compute
