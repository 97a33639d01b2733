import ClusterHarness.Compute.UserException

/-!
# Compute jobs

The code of a user that is shipped to other nodes, and how it is called there. The one closure that
can be shipped throws an exception, so every job ends with one.
-/

namespace ClusterHarness.Compute

open Schema

/-- Code that is shipped to another node. -/
inductive Closure where
  /-- Throws an exception that carries the argument as its details. -/
  | throw (kind : ExceptionKind) (message : String) (code : Int32)
  deriving Repr, DecidableEq

namespace Closure

/-- What is known of a closure while it is read. -/
structure Parts where
  kind : Option ExceptionKind := none
  message : Option String := none
  code : Option Int32 := none

def build (p : Parts) : Except Misfit Closure := do
  let kind ← given "kind" p.kind
  let message ← given "message" p.message
  let code ← given "code" p.code
  return .throw kind message code

def parts : Closure → Parts
  | .throw kind message code => ⟨some kind, some message, some code⟩

/-- The parts of a closure as they are written and read. -/
def record : Record Parts where
  name := "struct variant JobClosure::Throw"
  start := {}
  whole := true
  fields :=
    [.needed "kind" ExceptionKind.codec Parts.kind fun v p => { p with kind := some v },
     .needed "message" .text Parts.message fun v p => { p with message := some v },
     .needed "code" .int32 Parts.code fun v p => { p with code := some v }]

/-- The codec of what stands beside the name of the closure. -/
def content : Codec Closure := record.partsCodec parts build

/-- The name of the closure. -/
def label : String := "Throw"

/-- Decodes what stands beside the name. A value at hand has to be an object. -/
def decodeContent (t : Tagged) : Except Fault Closure :=
  match t.content, t.inner with
  | none, _ => .error (.misfit (.wrongType .unitVariant "struct variant"))
  | some (.object members closed), inner => content.decode inner (.object members closed)
  | some r, .value => .error (wrongType "struct variant" r)
  | some r, inner => content.decode inner r

/-- How closures are written and read: as an object with the name and the parts. -/
def codec : Codec Closure where
  encode c := .object [(label, content.encode c)]
  decode src r := do
    let t ← tagged [label] src r
    t.finish (← decodeContent t)
  convert
    | .table _ [(name, s)] =>
      if Text.lower name = Text.lower label then content.convert s
      else .error (.noVariant "JobClosure" name)
    | .scalar _ (.text name) => .error (.noVariant "JobClosure" name)
    | _ => .error (.notAVariant "JobClosure")

def thrownOn (node argument : String) : Closure → UserException
  | .throw kind message code =>
    { kind, message, code
      details := some argument
      stackTrace := ["JobClosure.apply(" ++ node ++ ")"] }

end Closure

/-- How a job calls its closure. -/
inductive JobKind where
  /-- Without a result. -/
  | run
  /-- With an argument fixed beforehand. -/
  | call
  /-- With an argument of the caller. -/
  | apply
  deriving Repr, DecidableEq

namespace JobKind

/-- The name of the kind in JSON. -/
def label : JobKind → String
  | .run => "Run"
  | .call => "Call"
  | .apply => "Apply"

def entryPoint : JobKind → String
  | .run => "run"
  | .call => "call"
  | .apply => "apply"

def variants : Enumeration JobKind := ⟨"JobKind", [.run, .call, .apply], label⟩

/-- A kind is written as its name. -/
def codec : Codec JobKind := variants.codec

end JobKind

/-- A job that is executed on some other node. -/
structure Job where
  kind : JobKind
  closure : Closure
  argument : String
  deriving Repr, DecidableEq

namespace Job

/-- What is known of a job while it is read. -/
structure Parts where
  kind : Option JobKind := none
  closure : Option Closure := none
  argument : Option String := none

def parts (j : Job) : Parts := ⟨some j.kind, some j.closure, some j.argument⟩

def build (p : Parts) : Except Misfit Job := do
  let kind ← given "kind" p.kind
  let closure ← given "closure" p.closure
  let argument ← given "arg" p.argument
  return { kind, closure, argument }

/-- The parts of a job as they are written and read. -/
def record : Record Parts where
  name := "struct ComputeJob"
  start := {}
  whole := true
  fields :=
    [.needed "kind" JobKind.codec Parts.kind fun v p => { p with kind := some v },
     .needed "closure" Closure.codec Parts.closure fun v p => { p with closure := some v },
     .needed "arg" .text Parts.argument fun v p => { p with argument := some v }]

def codec : Codec Job := record.partsCodec parts build

def name (j : Job) : String := j.kind.entryPoint

def thrownOn (node : String) (j : Job) : UserException := j.closure.thrownOn node j.argument

end Job

end ClusterHarness.Compute
