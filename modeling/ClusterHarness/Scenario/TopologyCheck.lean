import ClusterHarness.Config.Harness
import ClusterHarness.Wait

/-!
# Topology checks

Waiting until a cluster reports the topology version that is expected. The version is polled at fixed
intervals. As versions never go down, one that is too high ends the check at once.
-/

namespace ClusterHarness

/-- Polls until the expected version is seen, a higher one is seen, or the time is up. The verdict falls
after a poll, so that there is always a version to report. There is no result when a poll never ends, or
when the polls go on for ever because no time passes. -/
def Config.TopologyCheck.pollFrom (settings : Config.TopologyCheck) (query : σ → Course σ Nat)
    (pass : Nat → σ → σ) (expected elapsed : Nat) (s : σ) : Option (Finish σ Unit) :=
  match (query s).finish with
  | none => none
  | some ⟨.error e, delay, s⟩ => some ⟨.error e, elapsed + delay, s⟩
  | some ⟨.ok observed, delay, s⟩ =>
    if observed = expected then some ⟨.ok (), elapsed + delay, s⟩
    else if expected < observed || settings.checkTimeout.toNat ≤ elapsed + delay then
      some ⟨.error (.topologyMismatch expected observed), elapsed + delay, s⟩
    else
      let interval := waitTime settings.pollInterval.toNat
      settings |>.pollFrom query pass expected (elapsed + delay + interval) (pass interval s)
partial_fixpoint

/-- Waits until the expected version is reported. -/
def TopologyCheck.run (query : σ → Course σ Nat) (pass : Nat → σ → σ) (expected : Nat)
    (settings : Config.TopologyCheck) : Activity σ Unit :=
  settings.pollFrom query pass expected 0

end ClusterHarness
