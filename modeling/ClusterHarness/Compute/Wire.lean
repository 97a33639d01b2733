import ClusterHarness.Compute.UserException
import ClusterHarness.Json.Printer

/-!
# The wire form of user exceptions

The text by which an exception travels from one node to another. A serializable exception is written
by the names of its fields, an externalizable one as a bare sequence of message, code, details and
stack trace.
-/

namespace ClusterHarness.Compute

open Schema

namespace UserException

/-- The parts of an externalizable exception, in their order on the wire. -/
def positional : Record Parts where
  name := "tuple variant MarshalledException::Externalizable"
  start := { kind := some .externalizable }
  whole := true
  fields := [messageField, codeField, detailsField, stackTraceField]

/-- The values of the positional form. -/
def positions (e : UserException) : List Json :=
  (positional.fields.filterMap fun field => field.encode e.parts)

def toWire (e : UserException) : Json :=
  match e.kind with
  | .serializable => .object [(ExceptionKind.serializable.label, codec.encode e)]
  | .externalizable => .object [(ExceptionKind.externalizable.label, .array e.positions)]

def decodePositions (src : Source) : Json.Reading → Except Fault UserException
  | .array items closed => do
    (build (← positional.decode src (.array items closed))).mapError .misfit
  | other => .error (wrongType positional.name other)

/-- Decodes what stands beside the name of the form. -/
def decodeForm (t : Tagged) : Except Fault UserException := do
  match ← ExceptionKind.variants.ofLabel t.name, t.content with
  | .serializable, some r => codec.decode t.inner r
  | .serializable, none => .error (.misfit (.wrongType .unitVariant "newtype variant"))
  | .externalizable, some r => decodePositions t.inner r
  | .externalizable, none => .error (.misfit (.wrongType .unitVariant "tuple variant"))

/-- Decodes the wire form. -/
def ofWire (src : Source) (r : Json.Reading) : Except Fault UserException := do
  let t ← tagged ExceptionKind.variants.labels src r
  t.finish (← decodeForm t)

/-- The text of the wire form. -/
def marshal (e : UserException) : String := e.toWire.compact

def unmarshal (text : String) : Except Fault UserException := decodeText ofWire text

end UserException

end ClusterHarness.Compute
