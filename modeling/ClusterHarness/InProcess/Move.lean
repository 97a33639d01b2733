import ClusterHarness.InProcess.Client
import ClusterHarness.InProcess.Start

/-!
# What can happen

Every step that a task or a call can take, and the passing of time. Any order of moves is possible in
principle; the schedule takes one of them.
-/

namespace ClusterHarness.InProcess

/-- Something that can happen. -/
inductive Move where
  | addCluster (cluster : ManagedCluster)
  | addApplication
  /-- A request to start a cluster is found acceptable. -/
  | accept (cluster : ClusterId) (config : Config.Node) (nodes : Nat)
  | bind (launch : LaunchId)
  | render (launch : LaunchId)
  | install (launch : LaunchId)
  /-- A start call sees enough servers. -/
  | goLive (launch : LaunchId)
  /-- The caller of a start gives up. -/
  | abandon (launch : LaunchId)
  /-- A cluster is stopped or dropped. -/
  | halt (cluster : ClusterId)
  | joinSeat (launch : LaunchId) (seat : Nat)
  | leaveSeat (launch : LaunchId) (seat : Nat)
  | startRun (application : AppId) (config : Config.Node) (entryPoint : String)
  /-- A caller begins to wait for an application. -/
  | takeRun (application : AppId)
  | stepRun (run : RunId)
  | pass (duration : Nat)

/-- The state after a move, if the move is possible. -/
def State.after? (s : State) : Move → Option State
  | .addCluster cluster =>
    -- A cluster that is new does not run.
    if cluster.running.isSome then none else some (s.addCluster cluster).2
  | .addApplication => some s.addApplication.2
  | .accept c config nodes => (s.accept c config nodes).toOption.map Prod.snd
  | .bind l => s.bind? l
  | .render l => s.render? l
  | .install l => s.install? l
  | .goLive l => s.goLive? l
  | .abandon l => s.abandon? l
  | .halt c => (s.halt? c).map Prod.snd
  | .joinSeat l i => s.joinSeat? l i
  | .leaveSeat l i => s.leaveSeat? l i
  | .startRun a config entryPoint => (s.startRun a config entryPoint).toOption
  | .takeRun a => (s.takeRun? a).map Prod.snd
  | .stepRun r => s.stepRun? r
  | .pass duration => some { s with now := s.now + duration }

/-- The state after some moves in their order, if each is possible when it comes. -/
def State.afterAll? (s : State) (moves : List Move) : Option State := moves.foldlM State.after? s

end ClusterHarness.InProcess
