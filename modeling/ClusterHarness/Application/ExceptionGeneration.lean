import ClusterHarness.Application.Basic
import ClusterHarness.Compute.Expectation
import ClusterHarness.Compute.Job
import ClusterHarness.Error

/-!
# The exception generation application

The application has exceptions of both kinds thrown on other nodes through every way to call a job,
and checks each one. The first that does not arrive as it was thrown ends it.
-/

namespace ClusterHarness.ExceptionGeneration

open Compute

/-- One exception to be thrown. -/
structure Trial where
  job : JobKind
  exception : ExceptionKind
  deriving Repr, DecidableEq

def message : String := "Message from Exception"

def code : Int32 := 127

def details : String := "Details from Exception"

/-- The trials in the order in which they are made. -/
def trials : List Trial :=
  [.run, .call, .apply].flatMap fun job =>
    [.serializable, .externalizable].map fun exception => ⟨job, exception⟩

namespace Trial

def toJob (t : Trial) : Job := ⟨t.job, .throw t.exception message code, details⟩

/-- What is expected to arrive. Any stack trace that is not empty will do. -/
def expected (t : Trial) : UserException := ⟨t.exception, message, code, some details, []⟩

/-- The trial as messages name it. -/
def label (t : Trial) : String := t.job.entryPoint ++ " " ++ t.exception.label

/-- The verdict on the answer to the job. -/
def judge (t : Trial) (answer : Answer) : Except Error Unit :=
  (assertThrows answer t.expected).mapError fun mismatch =>
    .assertion (t.label ++ ": " ++ mismatch.text)

end Trial

/-- Makes trials one after the other, until one fails. A compute changes its state with each call. -/
def attempt (compute : σ → Job → Answer × σ) (s : σ) : List Trial → Except Error Unit × σ
  | [] => (.ok (), s)
  | t :: rest =>
    let (answer, s) := compute s t.toJob
    match t.judge answer with
    | .ok () => attempt compute s rest
    | .error e => (.error e, s)

def run (compute : σ → Job → Answer × σ) (context : Application.Context) (s : σ) :
    Except Error Unit × Application.Context × σ :=
  let context := context.initialized
  let (verdict, s) := attempt compute s trials
  (verdict, if verdict matches .ok _ then context.finished else context, s)

end ClusterHarness.ExceptionGeneration
