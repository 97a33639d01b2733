import ClusterHarness.InProcess.Schedule
import ClusterHarness.Scenario.ComputeExceptions

/-!
# The calls of clusters and applications

How the calls go when one caller makes them one after the other, and the tasks run in between as the
schedule says. The caller comes first: at the moment at which its wait is over, or runs out, nothing
else that is due then has happened.
-/

namespace ClusterHarness.InProcess

open Cluster

namespace State

/-- A wait for something that the tasks bring about. It is over at once if that is so already. -/
def waitFor (holds : State → Bool) (result : State → Except Error Unit) (s : State) :
    Course State Unit :=
  if holds s then .now (result s) s
  else
    { finish := (s.await holds).map fun t => ⟨result t, t.now - s.now, t⟩
      abandoned limit := s.pass limit
      late := true }

def sleep (asked : Nat) (s : State) : Course State Unit :=
  { finish := some ⟨.ok (), waitTime asked, s.pass (waitTime asked)⟩
    abandoned limit := s.pass limit }

/-! ## Start -/

/-- Takes steps of a start call as long as it need not wait for its members, so many at most. -/
def launchSteps (l : LaunchId) : (steps : Nat) → State → State
  | 0, s => s
  | steps + 1, s =>
    match ((s.bind? l).orElse fun _ => s.render? l).orElse fun _ => s.install? l with
    | some s => launchSteps l steps s
    | none => s

/-- The folder and the form in which a start call is about to write configurations, if it is. The
call lets others run then. -/
def writing? (s : State) (l : LaunchId) : Option (String × Render.Format) := do
  let x ← s.launches[l]?
  guard (x.phase matches .rendering _)
  (← s.clusters[x.cluster]?).rendering

/-- Goes on with a start call until it ends or waits for its members. -/
def resumeStart (s : State) (l : LaunchId) (nodes : Nat) : State := s.launchSteps l (nodes + 1)

/-- Begins a start call: its launch, unless the request is refused, and the state in which the call
first lets others run or has ended. -/
def beginStart (s : State) (c : ClusterId) (config : Config.Node) (nodes : Nat) :
    Except Error LaunchId × State :=
  match s.accept c config nodes with
  | .error e => (.error e, s)
  | .ok (l, s) =>
    let bound := (s.bind? l).getD s
    (.ok l, if (bound.writing? l).isSome then bound else bound.resumeStart l nodes)

/-- Why a start call has failed, if it has. -/
def startFailure? (s : State) (l : LaunchId) : Option Error :=
  match s.launches[l]?.map Launch.phase with
  | some (.failed e) => some e
  | _ => none

/-- The state that is left by a start call that is given up where it first lets others run. The
addresses stay bound, and the folder for the configurations is made all the same. -/
def abandonStart (s : State) (l : LaunchId) : State :=
  let left := (s.abandon? l).getD s
  match s.writing? l with
  | some (folder, _) => { left with files := (left.files.makeFolders folder).1 }
  | none => left

/-- Whether a start call sees enough servers. -/
def isLive (l : LaunchId) (s : State) : Bool := (s.goLive? l).isSome

/-- The wait of a start call for the members of its launch. -/
def awaitMembers (l : LaunchId) (s : State) : Course State Unit :=
  let wait := waitFor (isLive l) (fun _ => .ok ()) s
  { wait with
    finish := wait.finish.map fun x => { x with state := (x.state.goLive? l).getD x.state }
    abandoned limit :=
      let t := wait.abandoned limit
      (t.abandon? l).getD t }

/-- Starts a cluster and waits until all its members have joined. -/
def startCluster (c : ClusterId) (config : Config.Node) (nodes : Nat) (s : State) :
    Course State Unit :=
  match s.beginStart c config nodes with
  | (.error e, s) => .now (.error e) s
  | (.ok l, begun) =>
    let s := begun.resumeStart l nodes
    match s.startFailure? l with
    | some e =>
      { finish := some ⟨.error e, 0, s⟩
        abandoned _ := begun.abandonStart l
        late := (begun.writing? l).isSome }
    | none =>
      let wait := awaitMembers l s
      { wait with
        abandoned := fun limit => if limit = 0 then begun.abandonStart l else wait.abandoned limit }

/-- Starts a cluster twice at once: the second call begins where the first one first lets others
run. -/
def startTwice (c : ClusterId) (config : Config.Node) (nodes : Nat) :
    Activity State (Except Error Unit × Except Error Unit) := fun s =>
  let (first, s) := s.beginStart c config nodes
  let (second, s) := s.beginStart c config nodes
  let complete (launch : Except Error LaunchId) : Activity State (Except Error Unit) := fun s =>
    match launch with
    | .error e => some ⟨.ok (.error e), 0, s⟩
    | .ok l =>
      let s := s.resumeStart l nodes
      match s.startFailure? l with
      | some e => some ⟨.ok (.error e), 0, s⟩
      | none => (awaitMembers l s).finish.map fun x => ⟨.ok x.result, x.elapsed, x.state⟩
  let both : Activity State _ := do
    let a ← complete first
    let b ← complete second
    return (a, b)
  both s

/-! ## Running clusters -/

def topology (s : State) (c : ClusterId) : Except Error Snapshot :=
  match s.clusters[c]? with
  | none => .error (.fatal "no such cluster")
  | some cluster =>
    match cluster.running.bind (s.launches[·]?) with
    | none => .error (.notStarted cluster.name)
    | some x => .ok x.topology.snapshot

def topologyVersion (c : ClusterId) (s : State) : Course State Nat :=
  .now ((s.topology c).map Snapshot.version) s

/-- The configuration of the members that run. -/
def clusterConfig (s : State) (c : ClusterId) : Option Config.Node := do
  let x ← s.launches[← s.running? c]?
  return x.topology.config

/-- The addresses of the members that run. -/
def discoveryAddresses (s : State) (c : ClusterId) : List String :=
  match (s.running? c).bind (s.launches[·]?) with
  | some x => x.addresses
  | none => []

def clientConfig? (s : State) (c : ClusterId) : Option Config.Node :=
  (s.clusterConfig c).map fun config => config.asClient (s.discoveryAddresses c)

/-- Stops a cluster and waits until all its members have left. A cluster that does not run is left as it
is. -/
def stopCluster (c : ClusterId) (s : State) : Course State Unit :=
  match s.halt? c with
  | none => .now (.ok ()) s
  | some (l, s) => waitFor (isDeserted · l) (fun _ => .ok ()) s

/-- Drops a cluster: it is stopped, but nobody waits for its members. -/
def dropCluster (s : State) (c : ClusterId) : State :=
  match s.halt? c with
  | none => s
  | some (_, s) => s

/-! ## Applications -/

def startApplication (a : AppId) (config : Config.Node) (entryPoint : String) (s : State) :
    Course State Unit :=
  match s.startRun a config entryPoint with
  | .ok t => .now (.ok ()) t
  | .error e => .now (.error e) s

def hasEnded (r : RunId) (s : State) : Bool := (s.runResult? r).isSome

/-- Waits until an application has ended. -/
def awaitStopped (a : AppId) (s : State) : Course State Unit :=
  match s.takeRun? a with
  | none => .now (.error (.notStarted "application")) s
  | some (r, s) => waitFor (hasEnded r) (fun s => (s.runResult? r).getD (.ok ())) s

/-! ## As collaborators of a scenario -/

/-- A cluster and an application of the process as the collaborators of a scenario. The application
needs no parameters. -/
def collaborators (c : ClusterId) (a : AppId) : Collaborators State where
  startCluster := startCluster c
  topologyVersion := topologyVersion c
  clusterConfig s := (s.clusterConfig c, s)
  discoveryAddresses s := (s.discoveryAddresses c, s)
  stopCluster := stopCluster c
  startApplication config entryPoint _ := startApplication a config entryPoint
  awaitStopped := awaitStopped a
  pass := pass

end State

end ClusterHarness.InProcess
