import ClusterHarness.Compute.Failure

/-!
# Expected exceptions

Whether a compute call failed with the exception that was expected, wrapped or not. The conditions
are checked in order, and the first that does not hold is reported.
-/

namespace ClusterHarness.Compute

/-- How a call fails to surface the expected exception. -/
inductive Mismatch where
  | notThrown
  /-- Another failure, with the text of its outermost wrapper. -/
  | unexpected (text : String)
  | message
  | code
  | details
  | noStackTrace
  deriving Repr, DecidableEq

def Mismatch.text : Mismatch → String
  | .notThrown => "Exception has not been thrown."
  | .unexpected text => "Unexpected exception has been thrown: " ++ text
  | .message => "Unexpected message for thrown exception."
  | .code => "Unexpected code for thrown exception."
  | .details => "Unexpected details for thrown exception."
  | .noStackTrace => "Exception has no stacktrace."

def Failure.exceptionOf? (failure : Failure) (kind : ExceptionKind) : Option UserException :=
  match failure.cause with
  | .user actual => if actual.kind.isInstanceOf kind then some actual else none
  | _ => none

/-- Whether details satisfy the expected ones, if any are expected. -/
def detailsContain (actual : Option String) : Option String → Bool
  | none => true
  | some expected => actual.any fun details => Text.contains details expected

/-- Checks an exception against the expected one, its kind aside. -/
def UserException.meets (actual expected : UserException) : Except Mismatch Unit :=
  if !Text.contains actual.message expected.message then .error .message
  else if actual.code != expected.code then .error .code
  else if !detailsContain actual.details expected.details then .error .details
  else if actual.stackTrace.isEmpty then .error .noStackTrace
  else .ok ()

/-- Checks that a call failed with the expected exception. -/
def assertThrows (answer : Answer) (expected : UserException) : Except Mismatch Unit :=
  match answer with
  | .ok _ => .error .notThrown
  | .error failure =>
    match failure.exceptionOf? expected.kind with
    | some actual => actual.meets expected
    | none => .error (.unexpected failure.message)

end ClusterHarness.Compute
