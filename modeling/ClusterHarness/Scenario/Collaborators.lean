import ClusterHarness.Config.Node
import ClusterHarness.Json.Basic
import ClusterHarness.Wait

/-!
# Collaborators of a scenario

A scenario drives a cluster and an application that it knows by their calls alone. The calls are
functions on a state, so that anything can stand behind them: a script, clusters in the same process,
or another set of collaborators whose calls are noted down.
-/

namespace ClusterHarness

/-- A cluster and an application, by what can be asked of them. -/
structure Collaborators (σ : Type) where
  /-- Starts servers with a configuration, and waits until all of them are there. -/
  startCluster : Config.Node → Nat → σ → Course σ Unit
  topologyVersion : σ → Course σ Nat
  /-- The configuration of the servers that run. -/
  clusterConfig : σ → Option Config.Node × σ
  /-- Where the servers that run can be found. -/
  discoveryAddresses : σ → List String × σ
  stopCluster : σ → Course σ Unit
  /-- Starts the application of an entry point with parameters, and does not wait for it. -/
  startApplication : Config.Node → String → Json → σ → Course σ Unit
  /-- Waits until the application has ended. -/
  awaitStopped : σ → Course σ Unit
  /-- Lets time pass. -/
  pass : Nat → σ → σ

inductive Call where
  | startCluster (config : Config.Node) (nodes : Nat)
  | topologyVersion
  | clusterConfig
  | discoveryAddresses
  | stopCluster
  | startApplication (config : Config.Node) (entryPoint : String) (params : Json)
  | awaitStopped

namespace Collaborators

/-- Collaborators that note down every call when it is made, the latest first. -/
def recorded (c : Collaborators σ) : Collaborators (σ × List Call) where
  startCluster config nodes s :=
    (c.startCluster config nodes s.1).mapState fun t => (t, .startCluster config nodes :: s.2)
  topologyVersion s := (c.topologyVersion s.1).mapState fun t => (t, .topologyVersion :: s.2)
  clusterConfig s :=
    let (config, t) := c.clusterConfig s.1
    (config, t, .clusterConfig :: s.2)
  discoveryAddresses s :=
    let (addresses, t) := c.discoveryAddresses s.1
    (addresses, t, .discoveryAddresses :: s.2)
  stopCluster s := (c.stopCluster s.1).mapState fun t => (t, .stopCluster :: s.2)
  startApplication config entryPoint params s :=
    (c.startApplication config entryPoint params s.1).mapState fun t =>
      (t, .startApplication config entryPoint params :: s.2)
  awaitStopped s := (c.awaitStopped s.1).mapState fun t => (t, .awaitStopped :: s.2)
  pass duration s := (c.pass duration s.1, s.2)

end Collaborators

end ClusterHarness
