import ClusterHarness.InProcess.State
import ClusterHarness.Wait

/-!
# Starting and stopping a cluster

A start goes through steps, between which other tasks may run: the request is checked, the addresses
are bound, the configurations are written one by one, the launch is installed as the one that runs, and
then the call waits until there are as many servers as members. A step that cannot be taken in a state
has no result there.
-/

namespace ClusterHarness.InProcess

open Cluster

namespace ManagedCluster

def host : String := "127.0.0.1"

/-- The port of a member, by its index. There is none when the index is no word of sixteen bits, or
when counting on from the port of the cluster would wrap around. -/
def port? (c : ManagedCluster) (index : Nat) : Option UInt16 := do
  guard (index < UInt16.size)
  let port := c.basePort + .ofNat index
  guard (c.basePort ≤ port)
  return port

/-- The address of a member, by its index. -/
def memberAddress (c : ManagedCluster) (index : Nat) : Except StartObstacle String :=
  match c.port? index with
  | some port => .ok (host ++ ":" ++ Text.natText port.toNat)
  | none => .error (.noPort index)

/-- The id of a member, by its index: made from that of the configuration, or a fresh one. -/
def memberId (config : Config.Node) (freshId : Nat → String) (index : Nat) : String :=
  match config.consistentId with
  | some id => id ++ "-" ++ Text.natText index
  | none => freshId index

/-- A member, by its index. -/
def member (c : ManagedCluster) (config : Config.Node) (freshId : Nat → String) (index : Nat) :
    Except StartObstacle Member := do
  return { id := memberId config freshId index, address := some (← c.memberAddress index) }

/-- The most members that there can be room for: 56 bytes for each, in a block of memory that is at most
as long as the highest number of 64 bits with a sign. -/
def mostMembers : Nat := Text.maxI64 / 56

/-- So many members, one after the other, if each of them has a port. Room for all of them is made before
the first. -/
def members (c : ManagedCluster) (config : Config.Node) (nodes : Nat) (freshId : Nat → String) :
    Except Error (List Member) :=
  if mostMembers < nodes then .error .capacityOverflow
  else ((List.range nodes).mapM (c.member config freshId)).mapError (.startupFailed c.name)

/-- The members of a launch, if the request for it is acceptable. -/
def plan (c : ManagedCluster) (config : Config.Node) (nodes : Nat) (freshId : Nat → String) :
    Except Error (List Member) := do
  if c.running.isSome then .error (.alreadyStarted c.name)
  if nodes = 0 then .error (.startupFailed c.name .noMembers)
  if config.clientMode then .error (.startupFailed c.name .clientMode)
  config.validate.mapError .invalidConfig
  c.members config nodes freshId

end ManagedCluster

namespace State

/-- Accepts a request to start a cluster, or refuses it and changes nothing. -/
def accept (s : State) (c : ClusterId) (config : Config.Node) (nodes : Nat) :
    Except Error (LaunchId × State) :=
  match s.clusters[c]? with
  | none => .error (.fatal "no such cluster")
  | some cluster => do
    let members ← cluster.plan config nodes (s.freshId cluster.name)
    let launch : Launch :=
      { cluster := c
        topology := { name := cluster.name, config }
        seats := members.map fun member => { member } }
    return (s.launches.length,
      { s with launches := s.launches ++ [launch], generated := s.generated + nodes })

def bind? (s : State) (l : LaunchId) : Option State := do
  let x ← s.launches[l]?
  guard (x.phase = .accepted)
  if (s.running? x.cluster).isSome then
    return s.setPhase l (.failed (.alreadyStarted x.topology.name))
  match s.network.bindAll x.addresses l with
  | .error obstacle =>
    return s.setPhase l (.failed (.startupFailed x.topology.name obstacle))
  | .ok network => return { s with network }.setPhase l (.rendering 0)

def memberConfig (x : Launch) (seat : Seat) : Config.Node :=
  x.topology.config.apply (.consistentId seat.member.id)

/-- Writes the configuration of the next member. A launch whose configurations cannot be written
releases its addresses. -/
def render? (s : State) (l : LaunchId) : Option State := do
  let x ← s.launches[l]?
  match x.phase with
  | .rendering written =>
    let (folder, format) ← (← s.clusters[x.cluster]?).rendering
    let seat ← x.seats[written]?
    match format.write (memberConfig x seat) folder seat.member.id s.files with
    | (files, .ok _) => return { s with files }.setPhase l (.rendering (written + 1))
    | (files, .error e) =>
      return { s with files, network := s.network.unbindAll x.addresses }.setPhase l (.failed e)
  | _ => none

/-- Installs a launch as the one that runs, and lets its members join in due time. -/
def install? (s : State) (l : LaunchId) : Option State := do
  let x ← s.launches[l]?
  let cluster ← s.clusters[x.cluster]?
  match x.phase with
  | .rendering written =>
    guard (cluster.rendering.isNone || x.seats.length ≤ written)
    let time := s.now + waitTime cluster.joinDelay
    let seats := x.seats.map fun seat => { seat with stage := .due time }
    return (s.updateLaunch l fun x => { x with seats, phase := .waiting }).updateCluster x.cluster
      fun c => { c with running := some l }
  | _ => none

/-- Ends a start call that sees enough servers. -/
def goLive? (s : State) (l : LaunchId) : Option State := do
  let x ← s.launches[l]?
  guard (x.phase = .waiting && x.seats.length ≤ x.topology.announced.servers)
  return s.setPhase l .live

/-- Gives up a start call. What it has done so far stays. -/
def abandon? (s : State) (l : LaunchId) : Option State := do
  let x ← s.launches[l]?
  guard (!(x.phase matches .live | .failed _))
  return s.setPhase l .abandoned

/-- Takes the launch of a cluster off: its members are told to leave, and its addresses are released.
This begins a stop, and it is all that is done when a cluster is dropped. -/
def halt? (s : State) (c : ClusterId) : Option (LaunchId × State) := do
  let l ← s.running? c
  let x ← s.launches[l]?
  let s := (s.updateCluster c fun c => { c with running := none }).updateLaunch l fun x =>
    { x with shutdown := true }
  return (l, { s with network := s.network.unbindAll x.addresses })

/-! ## What the task of a member does -/

/-- Lets a member join whose time has come. One that is refused stays away for good. -/
def joinSeat? (s : State) (l : LaunchId) (i : Nat) : Option State := do
  let x ← s.launches[l]?
  let seat ← x.seats[i]?
  match seat.stage with
  | .due time =>
    guard (time ≤ s.now)
    match x.topology.join seat.member with
    | .ok topology => return (s.setTopology l topology).setSeat l i .joined
    | .error _ => return s.setSeat l i (.ended false)
  | _ => none

/-- Lets a member that is told to leave do so. -/
def leaveSeat? (s : State) (l : LaunchId) (i : Nat) : Option State := do
  let x ← s.launches[l]?
  let seat ← x.seats[i]?
  guard x.shutdown
  match seat.stage with
  | .due _ => return s.setSeat l i (.ended false)
  | .joined =>
    return (s.setTopology l ((x.topology.leave? seat.member.id).getD x.topology)).setSeat l i
      (.ended true)
  | _ => none

/-- Whether the tasks of all members have ended. -/
def isDeserted (s : State) (l : LaunchId) : Bool :=
  match s.launches[l]? with
  | none => true
  | some x => x.seats.all fun seat => seat.stage matches .ended _

end State

end ClusterHarness.InProcess
