import ClusterHarness.Scenario.Collaborators

/-!
# Scripted collaborators

Collaborators that do what a script says. Their state is the number of topology queries so far.
-/

namespace ClusterHarness

structure ScriptedCall where
  /-- How long the call takes, in milliseconds. -/
  delay : Nat := 0
  /-- What it fails with in the end, if it does. -/
  failure : Option Error := none

def ScriptedCall.result (c : ScriptedCall) : Except Error Unit :=
  match c.failure with
  | none => .ok ()
  | some e => .error e

/-- What collaborators answer. -/
structure Script where
  start : ScriptedCall := {}
  stop : ScriptedCall := {}
  startApplication : ScriptedCall := {}
  awaitStopped : ScriptedCall := {}
  config : Option Config.Node := none
  addresses : List String := []
  /-- The answers to the topology queries. -/
  versions : List (Except Error Nat) := []

namespace Script

/-- The answer to a call by its number. When there are more calls than answers, the last answer is given
again and again. -/
def answer? (answers : List α) (call : Nat) : Option α :=
  match answers[call]? with
  | some a => some a
  | none => answers.getLast?

/-- The answer to the next topology query. Without a script it is zero. -/
def query (versions : List (Except Error Nat)) (queries : Nat) : Course Nat Nat :=
  .now ((answer? versions queries).getD (.ok 0)) (queries + 1)

def course (c : ScriptedCall) : σ → Course σ Unit := .after (some c.delay) c.result

def collaborators (script : Script) : Collaborators Nat where
  startCluster _ _ := course script.start
  topologyVersion := query script.versions
  clusterConfig queries := (script.config, queries)
  discoveryAddresses queries := (script.addresses, queries)
  stopCluster := course script.stop
  startApplication _ _ _ := course script.startApplication
  awaitStopped := course script.awaitStopped
  pass _ queries := queries

end Script

end ClusterHarness
