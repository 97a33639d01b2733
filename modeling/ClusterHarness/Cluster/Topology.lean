import ClusterHarness.Config.Node
import ClusterHarness.Error

/-!
# The topology of a cluster

Which nodes a cluster has, and a version that grows by one whenever a node joins or leaves. Every
change is announced to those who watch the cluster.
-/

namespace ClusterHarness.Cluster

/-- A node of a cluster. -/
structure Member where
  id : String
  /-- Where the node can be found. Clients do not listen anywhere. -/
  address : Option String := none
  client : Bool := false
  deriving Repr, DecidableEq

/-- What can be seen of a topology from outside. -/
structure Snapshot where
  version : Nat := 0
  servers : Nat := 0
  clients : Nat := 0
  deriving Repr, DecidableEq

/-- The number of all nodes. -/
def Snapshot.members (s : Snapshot) : Nat := s.servers + s.clients

/-- The nodes of one cluster. -/
structure Topology where
  name : String
  /-- The configuration that the cluster was started with. -/
  config : Config.Node
  version : Nat := 0
  /-- The nodes in the order of their ids, no two with the same id. -/
  members : List Member := []
  announced : Snapshot := {}
  /-- How often a server has been picked, which tells whose turn it is. -/
  picks : UInt64 := 0
  deriving Repr, DecidableEq

namespace Topology

def hasMember (t : Topology) (id : String) : Bool := t.members.any fun m => m.id == id

/-- What can be seen of the topology now. -/
def snapshot (t : Topology) : Snapshot where
  version := t.version
  servers := t.members.countP fun m => !m.client
  clients := t.members.countP Member.client

/-- Announces what can be seen now. -/
def announce (t : Topology) : Topology := { t with announced := t.snapshot }

/-- Puts a node at its place among others. -/
def insertMember (m : Member) : List Member → List Member
  | [] => [m]
  | other :: rest =>
    if m.id < other.id then m :: other :: rest else other :: insertMember m rest

/-- Lets a node join. An id can be taken only once. -/
def join (t : Topology) (m : Member) : Except Error Topology :=
  if t.hasMember m.id then .error (.startupFailed t.name (.alreadyInTopology m.id))
  else .ok { t with version := t.version + 1, members := insertMember m t.members }.announce

/-- Lets a node leave, if it is there. -/
def leave? (t : Topology) (id : String) : Option Topology :=
  if t.hasMember id then
    some { t with
      version := t.version + 1
      members := t.members.filter fun m => m.id != id }.announce
  else none

/-- The servers other than the node that asks. -/
def remoteServers (t : Topology) (asking : String) : List Member :=
  t.members.filter fun m => !m.client && m.id != asking

/-- Picks a server other than the node that asks, each in its turn. The turn passes only when there is
one to pick. -/
def nextRemoteServer? (t : Topology) (asking : String) : Option (Member × Topology) :=
  let servers := t.remoteServers asking
  servers[t.picks.toNat % servers.length]?.map fun m => (m, { t with picks := t.picks + 1 })

end Topology

end ClusterHarness.Cluster
