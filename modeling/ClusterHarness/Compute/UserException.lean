import ClusterHarness.Schema.Record
import ClusterHarness.Schema.Variant

/-!
# User exceptions

What the code of a user throws inside a compute job. An exception is serializable or, as a refinement
of that, externalizable, which is how it travels between nodes.
-/

namespace ClusterHarness.Compute

inductive ExceptionKind where
  | serializable
  /-- Writes a form of its own. -/
  | externalizable
  deriving Repr, DecidableEq

namespace ExceptionKind

def label : ExceptionKind → String
  | .serializable => "Serializable"
  | .externalizable => "Externalizable"

def variants : Schema.Enumeration ExceptionKind :=
  ⟨"ExceptionKind", [.serializable, .externalizable], label⟩

/-- A kind is written as its name. -/
def codec : Schema.Codec ExceptionKind := variants.codec

def isInstanceOf (actual expected : ExceptionKind) : Bool :=
  match expected with
  | .serializable => true
  | .externalizable => actual == .externalizable

end ExceptionKind

structure UserException where
  kind : ExceptionKind
  message : String
  code : Int32
  details : Option String
  /-- The calls that led to it, the innermost first. -/
  stackTrace : List String
  deriving Repr, DecidableEq

namespace UserException

/-- What is known of an exception while it is read. -/
structure Parts where
  kind : Option ExceptionKind := none
  message : Option String := none
  code : Option Int32 := none
  details : Option String := none
  stackTrace : Option (List String) := none

def parts (e : UserException) : Parts where
  kind := some e.kind
  message := some e.message
  code := some e.code
  details := e.details
  stackTrace := some e.stackTrace

open Schema

/-- The exception that is made of parts. Only details may be missing. -/
def build (p : Parts) : Except Misfit UserException := do
  return {
    kind := ← given "kind" p.kind
    message := ← given "message" p.message
    code := ← given "code" p.code
    details := p.details
    stackTrace := ← given "stack_trace" p.stackTrace }

def messageField : Schema.Field Parts :=
  .needed "message" .text Parts.message fun v p => { p with message := some v }

def codeField : Schema.Field Parts :=
  .needed "code" .int32 Parts.code fun v p => { p with code := some v }

def detailsField : Schema.Field Parts :=
  .nullable "details" .text Parts.details fun v p => { p with details := v }

def stackTraceField : Schema.Field Parts :=
  .needed "stack_trace" (.list .text) Parts.stackTrace fun v p => { p with stackTrace := some v }

/-- The parts of an exception as they are written and read. -/
def record : Record Parts where
  name := "struct UserException"
  start := {}
  whole := true
  fields :=
    [.needed "kind" ExceptionKind.codec Parts.kind fun v p => { p with kind := some v },
     messageField, codeField, detailsField, stackTraceField]

def codec : Codec UserException := record.partsCodec parts build

end UserException

end ClusterHarness.Compute
