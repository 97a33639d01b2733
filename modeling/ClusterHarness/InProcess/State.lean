import ClusterHarness.Application.ExceptionGeneration
import ClusterHarness.Cluster.Network
import ClusterHarness.Compute.Remote
import ClusterHarness.Render.Artifact

/-!
# Clusters and applications in one process

Clusters and client applications whose nodes are tasks of this process. They share a network, a tree
of files and a clock, and nothing happens but by steps of the tasks and of the calls that are under
way. This module holds their states; the steps are in the modules beside it.
-/

namespace ClusterHarness.InProcess

open Cluster Compute

abbrev ClusterId := Nat

/-- The number of a launch, of all launches of all clusters. -/
abbrev LaunchId := Nat

/-- The number of an application. -/
abbrev AppId := Nat

/-- The number of a run, of all runs of all applications. -/
abbrev RunId := Nat

/-- A cluster that can be started and stopped, many times over. -/
structure ManagedCluster where
  name : String
  /-- The port of the first member. Each other member takes the next one. -/
  basePort : UInt16 := 47500
  /-- How long a member takes to join, in milliseconds. -/
  joinDelay : Nat := 0
  /-- The folder and the form in which the members' configurations are written, if they are. -/
  rendering : Option (String × Render.Format) := none
  running : Option LaunchId := none
  deriving Repr, DecidableEq

/-- How far the task of a member has come. -/
inductive SeatStage where
  /-- There is no task yet. -/
  | planned
  /-- The member joins at some time. -/
  | due (time : Nat)
  | joined
  /-- The task has ended, and the member either had joined before or never did. -/
  | ended (hadJoined : Bool)
  deriving Repr, DecidableEq

/-- A member of a launch with the task that joins and leaves for it. -/
structure Seat where
  member : Member
  stage : SeatStage := .planned
  deriving Repr, DecidableEq

/-- How far the call that starts a cluster has come. -/
inductive StartPhase where
  /-- The request has been found acceptable. -/
  | accepted
  /-- The addresses are bound, and the configurations of so many members are written. -/
  | rendering (written : Nat)
  /-- The launch runs, and the call waits for the members. -/
  | waiting
  /-- The call has ended with all members there. -/
  | live
  | failed (error : Error)
  /-- The caller has given up. -/
  | abandoned
  deriving Repr, DecidableEq

/-- One start of a cluster, with everything that comes of it. -/
structure Launch where
  cluster : ClusterId
  topology : Topology
  seats : List Seat
  phase : StartPhase := .accepted
  /-- Whether the members have been told to leave. -/
  shutdown : Bool := false
  deriving Repr, DecidableEq

def Launch.addresses (x : Launch) : List String := x.seats.filterMap fun seat => seat.member.address

/-- An application that can be started and waited for, many times over. -/
structure ManagedApplication where
  /-- The run that has been started and not been waited for. -/
  running : Option RunId := none
  /-- The run that was started last. -/
  latest : Option RunId := none
  deriving Repr, DecidableEq

/-- How far the task of an application has come. -/
inductive RunStage where
  /-- The application has not joined the cluster yet. -/
  | spawned
  /-- Some trials are left to make. -/
  | trying (rest : List ExceptionGeneration.Trial)
  /-- The job of a trial is on its way, and some more trials are left. -/
  | sent (trial : ExceptionGeneration.Trial) (shipment : Shipment)
      (rest : List ExceptionGeneration.Trial)
  /-- The application is done, or has failed, and still has to leave the cluster. -/
  | leaving (failure : Option Error)
  | ended (failure : Option Error)
  deriving Repr, DecidableEq

structure Run where
  application : Application
  /-- The launch whose topology the application joins. -/
  launch : LaunchId
  context : Application.Context
  stage : RunStage := .spawned
  deriving Repr, DecidableEq

namespace Run

def member (x : Run) : Member := { id := x.context.nodeId, client := x.context.config.clientMode }

/-- The node as it calls others. -/
def caller (x : Run) : Caller := ⟨x.context.nodeId, x.context.config.peerClassLoadingEnabled⟩

end Run

/-- Eight characters that tell one generated id from all others: a number, filled up with a sign that
ids hardly have. -/
def distinction (number : Nat) : String :=
  let digits := Text.natText number
  String.ofList (List.replicate (8 - digits.length) '#') ++ digits

/-- All clusters and applications of the process, with what they share. Nothing is ever taken off the
lists, so that positions serve as numbers. -/
structure State where
  /-- The time in milliseconds. -/
  now : Nat := 0
  files : Files := .empty
  network : Network LaunchId := {}
  clusters : List ManagedCluster := []
  launches : List Launch := []
  applications : List ManagedApplication := []
  runs : List Run := []
  /-- How many ids have been generated. -/
  generated : Nat := 0
  /-- What each generated id ends with. -/
  marks : Nat → String := distinction

namespace State

/-- A generated id for a node that has none, by its number among those that are generated next. -/
def freshId (s : State) (name : String) (index : Nat) : String :=
  name ++ "-" ++ s.marks (s.generated + index)

def updateCluster (s : State) (c : ClusterId) (f : ManagedCluster → ManagedCluster) : State :=
  { s with clusters := s.clusters.modify c f }

def updateLaunch (s : State) (l : LaunchId) (f : Launch → Launch) : State :=
  { s with launches := s.launches.modify l f }

def setTopology (s : State) (l : LaunchId) (topology : Topology) : State :=
  s.updateLaunch l fun x => { x with topology }

def setPhase (s : State) (l : LaunchId) (phase : StartPhase) : State :=
  s.updateLaunch l fun x => { x with phase }

/-- Sets how far the task of a member has come. -/
def setSeat (s : State) (l : LaunchId) (i : Nat) (stage : SeatStage) : State :=
  s.updateLaunch l fun x => { x with seats := x.seats.modify i fun seat => { seat with stage } }

def updateApplication (s : State) (a : AppId) (f : ManagedApplication → ManagedApplication) :
    State :=
  { s with applications := s.applications.modify a f }

def setRun (s : State) (r : RunId) (stage : RunStage) : State :=
  { s with runs := s.runs.modify r fun x => { x with stage } }

def addCluster (s : State) (c : ManagedCluster) : ClusterId × State :=
  (s.clusters.length, { s with clusters := s.clusters ++ [c] })

def addApplication (s : State) : AppId × State :=
  (s.applications.length, { s with applications := s.applications ++ [{}] })

def running? (s : State) (c : ClusterId) : Option LaunchId :=
  s.clusters[c]?.bind ManagedCluster.running

end State

end ClusterHarness.InProcess
