import ClusterHarness.Config.Harness
import ClusterHarness.Settings.Source

/-!
# Loading harness settings

The settings of the harness from three layers: the values that hold so far, a file, and the
environment on top.
-/

namespace ClusterHarness.Settings

/-- The surroundings that settings are read from. -/
structure Surroundings where
  files : Files
  /-- The absolute path of the current folder. -/
  folder : String
  /-- Environment variables, by name and text. -/
  environment : List (String × String)

def fileVariable : String := "CONFIG_PATH"

/-- The entry of a time, which a layer can hold up to the largest signed integer. -/
def timeEntry (name : String) (value : UInt64) : Except Fault (String × Setting) :=
  if value.toNat ≤ Text.maxI64 then
    .ok (name, .scalar none (.integer value.toNat))
  else .error (.aboveLimit value.toNat)

/-- The layer of the values that hold so far. -/
def ofCurrent (h : Config.Harness) : Except Fault Layer := do
  let startup ← timeEntry "startup_timeout_in_ms" h.cluster.startupTimeout
  let shutdown ← timeEntry "shutdown_timeout_in_ms" h.cluster.shutdownTimeout
  let awaitStopped ←
    timeEntry "await_stopped_timeout_in_ms" h.application.awaitStoppedTimeout
  let check ← timeEntry "check_timeout_in_ms" h.topology.checkTimeout
  let poll ← timeEntry "poll_interval_in_ms" h.topology.pollInterval
  return [("cluster", .table none [startup, shutdown]),
    ("application", .table none [awaitStopped]),
    ("topology", .table none [check, poll])]

/-- The settings of a stack of layers. -/
def harnessOf (layers : List Layer) : Except Fault Config.Harness :=
  Config.Harness.codec.convert (stack layers)

/-- The settings to begin with: the default values, the file that a variable names, and the
environment. -/
def load (around : Surroundings) : Except Fault Config.Harness := do
  let base ← ofCurrent .default
  let file ← match around.environment.lookup fileVariable with
    | some path => ofFile around.files around.folder path
    | none => .ok []
  harnessOf [base, file, ofEnvironment around.environment]

/-- The settings with a file on top of them, and the environment on top of that. -/
def override (around : Surroundings) (h : Config.Harness) (path : String) :
    Except Fault Config.Harness := do
  let base ← ofCurrent h
  let file ← ofFile around.files around.folder path
  harnessOf [base, file, ofEnvironment around.environment]

/-- The settings after each of some files, where one that cannot be used leaves what held before. -/
def overrides (around : Surroundings) (h : Config.Harness) :
    List String → List (Except Fault Config.Harness)
  | [] => []
  | path :: rest =>
    let result := override around h path
    result :: overrides around (result.toOption.getD h) rest

/-- The settings to begin with and those after each of some files. -/
def stages (around : Surroundings) (paths : List String) : List (Except Fault Config.Harness) :=
  let first := load around
  first :: overrides around (first.toOption.getD .default) paths

/-- A value of a record from a document on its own. -/
def fromDocument (codec : Schema.Codec α) (text : String) : Except Fault α := do
  codec.convert (stack [← ofDocument none text])

end ClusterHarness.Settings
