import ClusterHarness.InProcess.State

/-!
# Client applications in the process

An application finds a cluster through the addresses of its configuration, joins it, makes its trials on
the servers there, and leaves. Every step of its task changes one shared thing at most.
-/

namespace ClusterHarness.InProcess

open Cluster Compute

namespace State

/-- The launch that an application with a configuration would join. -/
def discover (s : State) (application : Application) (config : Config.Node) :
    Except Error (LaunchId × Launch) :=
  match config.discovery with
  | none => .error (.discoveryFailed (.notConfigured application.entryPoint))
  | some discovery =>
    match s.network.resolve? discovery.addresses with
    | none => .error (.discoveryFailed (.unreachable discovery.addresses))
    | some l =>
      match s.launches[l]? with
      | none => .error (.discoveryFailed (.unreachable discovery.addresses))
      | some x => .ok (l, x)

/-- Starts an application, or refuses to and changes nothing. -/
def startRun (s : State) (a : AppId) (config : Config.Node) (entryPoint : String) :
    Except Error State :=
  match Application.ofEntryPoint? entryPoint with
  | none => .error (.unknownEntryPoint entryPoint)
  | some application => do
    config.validate.mapError .invalidConfig
    let (launch, x) ← s.discover application config
    if x.topology.config.version != config.version then
      .error (.startupFailed entryPoint (.versionMismatch config.version x.topology.config.version))
    match s.applications[a]? with
    | none => .error (.fatal "no such application")
    | some managed =>
      if managed.running.isSome then .error (.alreadyStarted entryPoint)
      let nodeId := config.consistentId.getD (s.freshId "app" 0)
      let r := s.runs.length
      return { s with
        runs := s.runs ++ [{ application, launch, context := { nodeId, config } }]
        applications := s.applications.modify a fun _ => ⟨some r, some r⟩
        generated := s.generated + 1 }

/-- Takes off the run of an application, to wait for it. -/
def takeRun? (s : State) (a : AppId) : Option (RunId × State) := do
  let r ← (← s.applications[a]?).running
  return (r, s.updateApplication a fun m => { m with running := none })

/-- What the caller is told of a run that has ended. -/
def runResult? (s : State) (r : RunId) : Option (Except Error Unit) := do
  let x ← s.runs[r]?
  match x.stage with
  | .ended none => return .ok ()
  | .ended (some e) => return .error (.applicationFailed x.application.entryPoint e.message)
  | _ => none

/-- How far the run that was started last has come. -/
def progress? (s : State) (a : AppId) : Option Progress := do
  let r ← (← s.applications[a]?).latest
  return (← s.runs[r]?).context.progress

/-- Where a run goes on after an answer to a trial. -/
def judged (trial : ExceptionGeneration.Trial) (rest : List ExceptionGeneration.Trial)
    (answer : Answer) : RunStage :=
  match trial.judge answer with
  | .ok () => .trying rest
  | .error e => .leaving (some e)

/-- The next step of the task of an application. -/
def stepRun? (s : State) (r : RunId) : Option State := do
  let x ← s.runs[r]?
  let launch ← s.launches[x.launch]?
  let change (f : Run → Run) (s : State) : State := { s with runs := s.runs.modify r f }
  match x.stage with
  | .spawned =>
    match launch.topology.join x.member with
    | .error e => return s.setRun r (.ended (some e))
    | .ok topology =>
      return change
        (fun x => { x with
          context := x.context.initialized, stage := .trying ExceptionGeneration.trials })
        (s.setTopology x.launch topology)
  | .trying [] =>
    return change (fun x => { x with context := x.context.finished, stage := .leaving none }) s
  | .trying (trial :: rest) =>
    match Shipment.send x.caller launch.topology trial.toJob with
    | .error failure => return s.setRun r (judged trial rest (.error failure))
    | .ok (shipment, topology) =>
      return (s.setTopology x.launch topology).setRun r (.sent trial shipment rest)
  | .sent trial shipment rest => return s.setRun r (judged trial rest shipment.answer)
  | .leaving failure =>
    let topology := (launch.topology.leave? x.member.id).getD launch.topology
    return (s.setTopology x.launch topology).setRun r (.ended failure)
  | .ended _ => none

end State

end ClusterHarness.InProcess
