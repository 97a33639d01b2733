import ClusterHarness.Application.Basic
import ClusterHarness.Scenario.Collaborators
import ClusterHarness.Scenario.TopologyCheck

/-!
# The compute exception scenario

All nodes of a test but one are started as servers. The last one is a client, an application that has
exceptions thrown on the servers and checks how they arrive. Its joining and its leaving raise the
topology version by one each, and the version is checked before and after. Whatever happens, the
servers are stopped in the end.
-/

namespace ClusterHarness

/-- What a scenario is run with. -/
structure TestContext where
  name : String
  /-- All nodes of the test, servers and clients. -/
  nodes : Nat
  version : Version
  harness : Config.Harness := .default

namespace ComputeExceptions

def nodeConfig (context : TestContext) : Config.Node :=
  ((Config.Node.ofVersion context.version).apply (.metricExporters [.jmx])).apply
    (.peerClassLoadingEnabled true)

/-- The application that the scenario runs. -/
def application : Application := .exceptionGeneration

def params : Json := .object []

/-- The configuration of the client: that of the servers, except that it is a client's and points at
them. -/
def clientConfig (c : Collaborators σ) : Activity σ Config.Node := do
  match ← Activity.read c.clusterConfig with
  | none => .fail (.notStarted "cluster")
  | some config => return config.asClient (← Activity.read c.discoveryAddresses)

def checkTopology (c : Collaborators σ) (context : TestContext) (expected : Nat) :
    Activity σ Unit :=
  TopologyCheck.run c.topologyVersion c.pass expected context.harness.topology

/-- Everything up to the second check of the topology. -/
def body (c : Collaborators σ) (context : TestContext) (servers : Nat) : Activity σ Unit := do
  Activity.bounded "cluster start" context.harness.cluster.startupTimeout.toNat
    (c.startCluster (nodeConfig context) servers)
  checkTopology c context servers
  let config ← clientConfig c
  Activity.call (c.startApplication config application.entryPoint params)
  Activity.bounded "application await_stopped"
    context.harness.application.awaitStoppedTimeout.toNat c.awaitStopped
  checkTopology c context (servers + 2)

def stop (c : Collaborators σ) (context : TestContext) : Activity σ Unit :=
  Activity.bounded "cluster stop" context.harness.cluster.shutdownTimeout.toNat c.stopCluster

/-- Why a context is refused. -/
def tooFewNodes (context : TestContext) : String :=
  context.name ++ " needs at least 2 nodes, got " ++ Text.natText context.nodes

/-- Runs the scenario. A context with no room for both a server and the client is refused before
anything is called. -/
def run (c : Collaborators σ) (context : TestContext) : Activity σ Unit :=
  if context.nodes < 2 then .fail (.invalidContext (tooFewNodes context))
  else (body c context (context.nodes - 1)).andFinally (stop c context)

end ComputeExceptions

end ClusterHarness
