import ClusterHarness.Application.ExceptionGeneration
import ClusterHarness.Proofs.Compute.Remote

/-! # Trials that go well

The exception that a trial asks for passes the check of the trial, whichever server threw it.
-/

namespace ClusterHarness.ExceptionGeneration.Trial

open Compute

theorem exceptionOf?_ofRemote (e : UserException) : (Failure.ofRemote e).exceptionOf? e.kind = some e := by
  have instance_self : e.kind.isInstanceOf e.kind = true := by cases e.kind <;> rfl
  simp only [Failure.exceptionOf?, Failure.cause_ofRemote, instance_self, if_true]

theorem judge_thrownOn (t : Trial) (node : String) :
    t.judge (.error (.ofRemote (t.toJob.thrownOn node))) = .ok () := by
  have found : (Failure.ofRemote (t.toJob.thrownOn node)).exceptionOf? t.exception =
      some (t.toJob.thrownOn node) := exceptionOf?_ofRemote (t.toJob.thrownOn node)
  have meets : (t.toJob.thrownOn node).meets t.expected = .ok () := by
    simp [UserException.meets, toJob, Job.thrownOn, Closure.thrownOn, expected, detailsContain,
      Text.contains_self]
  rw [judge, assertThrows, show t.expected.kind = t.exception from rfl, found]
  simp only [meets]
  rfl

/-- A failure that is not an exception of the job is reported as it is. -/
theorem judge_of_none {failure : Failure} (t : Trial) (other : failure.exceptionOf? t.exception = none) :
    t.judge (.error failure) =
      .error (.assertion (t.label ++ ": " ++ (Mismatch.unexpected failure.message).text)) := by
  rw [judge, assertThrows, show t.expected.kind = t.exception from rfl, other]
  rfl

end ClusterHarness.ExceptionGeneration.Trial
