import ClusterHarness.Proofs.Config.Validity
import ClusterHarness.Proofs.Scenario.Polls
import ClusterHarness.Scenario.ComputeExceptions

/-! # How long a scenario takes

The waits for the start and the stop of the servers and for the end of the application have bounds of
their own, and so have the pauses between polls. Two replies have none: that to a poll, and that to the
request to start the application. A scenario ends in a time that its settings and these two replies
tell. There is no such time without them, and none when no time passes between two polls.
-/

namespace ClusterHarness

theorem waitTime_le (asked : Nat) : waitTime asked ≤ asked := Nat.min_le_left asked longestWait

/-- A call ends, in some time at most. -/
def Course.EndsIn (limit : Nat) (c : Course σ α) : Prop :=
  ∃ x, c.finish = some x ∧ x.elapsed ≤ limit

theorem Course.within_elapsed_le (operation : String) (limit : Nat) (c : Course σ α) :
    (c.within operation limit).elapsed ≤ limit := by
  unfold within
  split
  · rename_i x ended
    by_cases soon : c.endsWithin limit = true
    · rw [if_pos soon]
      simp only [endsWithin, ended, Bool.or_eq_true, Bool.and_eq_true, decide_eq_true_eq,
        beq_iff_eq] at soon
      omega
    · exact Nat.le_of_eq (congrArg Finish.elapsed (if_neg soon))
  · exact Nat.le_refl limit

/-- An activity ends in some time at most, wherever it begins. -/
def Activity.EndsIn (limit : Nat) (x : Activity σ α) : Prop :=
  ∀ s, ∃ y, x s = some y ∧ y.elapsed ≤ limit

namespace Activity.EndsIn

variable {σ α β : Type} {limit more : Nat}

theorem pure (a : α) : EndsIn 0 (Activity.pure a : Activity σ α) :=
  fun _ => ⟨_, rfl, Nat.le_refl 0⟩

theorem fail (e : Error) : EndsIn 0 (Activity.fail e : Activity σ α) :=
  fun _ => ⟨_, rfl, Nat.le_refl 0⟩

theorem read (look : σ → α × σ) : EndsIn 0 (Activity.read look) :=
  fun _ => ⟨_, rfl, Nat.le_refl 0⟩

theorem call {c : σ → Course σ α} (ends : ∀ s, (c s).EndsIn limit) : EndsIn limit (Activity.call c) :=
  ends

theorem bounded (operation : String) (limit : Nat) (c : σ → Course σ α) :
    EndsIn limit (Activity.bounded operation limit c) :=
  fun s => ⟨_, rfl, (c s).within_elapsed_le operation limit⟩

theorem mono {x : Activity σ α} (ends : EndsIn limit x) (le : limit ≤ more) : EndsIn more x := by
  intro s
  obtain ⟨y, ended, time⟩ := ends s
  exact ⟨y, ended, Nat.le_trans time le⟩

theorem bind {x : Activity σ α} {f : α → Activity σ β} (first : EndsIn limit x)
    (next : ∀ a, EndsIn more (f a)) : EndsIn (limit + more) (x >>= f) := by
  intro s
  change ∃ y, Activity.bind x f s = some y ∧ y.elapsed ≤ limit + more
  obtain ⟨⟨result, elapsed, t⟩, ended, time⟩ := first s
  cases result with
  | error e =>
      refine ⟨⟨.error e, elapsed, t⟩, ?_, Nat.le_add_right_of_le time⟩
      simp only [Activity.bind, ended]
  | ok a =>
      obtain ⟨z, later, rest⟩ := next a t
      refine ⟨⟨z.result, elapsed + z.elapsed, z.state⟩, ?_, Nat.add_le_add time rest⟩
      simp only [Activity.bind, ended, later]

theorem andFinally {x y : Activity σ Unit} (first : EndsIn limit x) (last : EndsIn more y) :
    EndsIn (limit + more) (x.andFinally y) := by
  intro s
  obtain ⟨a, ended, time⟩ := first s
  obtain ⟨b, later, rest⟩ := last a.state
  simp only [Activity.andFinally, ended, later]
  exact ⟨_, rfl, Nat.add_le_add time rest⟩

end Activity.EndsIn

/-! ## Checks of the topology -/

namespace TopologyCheck

variable {σ : Type} {query : σ → Course σ Nat} {pass : Nat → σ → σ} {expected reply : Nat}
  {settings : Config.TopologyCheck}

/-- The last poll of a check begins before its time is up, or one pause later at most. -/
theorem Polls.elapsed_le {elapsed : Nat} {s : σ} {x : Finish σ Unit}
    (polls : Polls query pass expected settings elapsed s x) (ends : ∀ s, (query s).EndsIn reply)
    (begun : elapsed ≤ settings.checkTimeout.toNat + settings.pollInterval.toNat) :
    x.elapsed ≤ settings.checkTimeout.toNat + settings.pollInterval.toNat + reply := by
  have answered {s : σ} {y : Finish σ Nat} (found : (query s).finish = some y) : y.elapsed ≤ reply := by
    obtain ⟨z, same, time⟩ := ends s
    cases found.symm.trans same
    exact time
  induction polls with
  | failed found | seen found | missed found =>
      have time := answered found
      simp only at time ⊢
      omega
  | again found low early rest ih =>
      have pause := waitTime_le settings.pollInterval.toNat
      exact ih (by omega)

/-- A check whose polls are all answered ends, and takes no longer than its time, one pause and one
reply. -/
theorem run_endsIn (ends : ∀ s, (query s).EndsIn reply) (interval : settings.pollInterval ≠ 0) :
    (run query pass expected settings).EndsIn
      (settings.checkTimeout.toNat + settings.pollInterval.toNat + reply) := by
  intro s
  have finishes : ∀ s, ∃ x, (query s).finish = some x := by
    intro s
    obtain ⟨x, found, -⟩ := ends s
    exact ⟨x, found⟩
  obtain ⟨x, polls⟩ : ∃ x, Polls query pass expected settings 0 s x :=
    exists_polls finishes interval 0 s
  exact ⟨x, pollFrom_of_polls polls, polls.elapsed_le ends (Nat.zero_le _)⟩

theorem run_of_still (still : settings.pollInterval = 0) (time : settings.checkTimeout ≠ 0)
    (low : ∀ s, ∃ observed t, (query s).finish = some ⟨.ok observed, 0, t⟩ ∧ observed < expected)
    (s : σ) : run query pass expected settings s = none := by
  have early : 0 < settings.checkTimeout.toNat :=
    Nat.pos_of_ne_zero fun zero => time (UInt64.toNat_inj.mp zero)
  cases ended : run query pass expected settings s with
  | none => rfl
  | some x => exact absurd (polls_of_pollFrom ended) (not_polls_of_still still low early)

end TopologyCheck

/-! ## The whole scenario -/

namespace ComputeExceptions

variable {σ : Type} {c : Collaborators σ} {context : TestContext} {reply start : Nat}

theorem clientConfig_endsIn (c : Collaborators σ) : (clientConfig c).EndsIn 0 := by
  unfold clientConfig
  rw [← Nat.add_zero 0]
  refine .bind (.read c.clusterConfig) ?_
  intro config
  cases config with
  | none => exact .fail _
  | some config =>
      rw [← Nat.add_zero 0]
      exact .bind (.read c.discoveryAddresses) fun _ => .pure _

/-- A scenario ends when all polls and the request to start the application are answered, and it takes no
longer than its bounds and these replies allow. -/
theorem run_endsIn (valid : context.harness.validate = .ok ())
    (polled : ∀ s, (c.topologyVersion s).EndsIn reply)
    (started : ∀ config entryPoint params s,
      (c.startApplication config entryPoint params s).EndsIn start) :
    (run c context).EndsIn
      (context.harness.cluster.startupTimeout.toNat +
        2 * (context.harness.topology.checkTimeout.toNat +
          context.harness.topology.pollInterval.toNat + reply) +
        start + context.harness.application.awaitStoppedTimeout.toNat +
        context.harness.cluster.shutdownTimeout.toNat) := by
  have check : ∀ expected, (checkTopology c context expected).EndsIn
      (context.harness.topology.checkTimeout.toNat + context.harness.topology.pollInterval.toNat + reply) :=
    fun _ => TopologyCheck.run_endsIn polled (Config.Harness.validate_iff.mp valid).pollInterval
  unfold run
  split
  · exact (Activity.EndsIn.fail _).mono (Nat.zero_le _)
  · refine ((Activity.EndsIn.bind (.bounded _ _ _) fun _ => .bind (check _) fun _ =>
      .bind (clientConfig_endsIn c) fun config => .bind (.call (started config _ _)) fun _ =>
      .bind (.bounded _ _ _) fun _ => check _).andFinally (.bounded _ _ _)).mono ?_
    omega

/-! ### Scenarios that never end -/

theorem run_of_endless_body {s : σ} (nodes : 2 ≤ context.nodes)
    (endless : body c context (context.nodes - 1) s = none) : run c context s = none := by
  rw [run, if_neg (Nat.not_lt.mpr nodes), Activity.andFinally, endless]

section

variable {s t u v : σ} {elapsed checked read : Nat} (nodes : 2 ≤ context.nodes)
  (up : Activity.bounded "cluster start" context.harness.cluster.startupTimeout.toNat
    (c.startCluster (nodeConfig context) (context.nodes - 1)) s = some ⟨.ok (), elapsed, t⟩)

include nodes up

theorem run_of_endless_check (endless : checkTopology c context (context.nodes - 1) t = none) :
    run c context s = none := by
  apply run_of_endless_body nodes
  simp only [body, bind, Activity.bind, up, endless]

/-- No setting ends a scenario whose first poll is never answered. -/
theorem run_of_silent_poll (silent : (c.topologyVersion t).finish = none) : run c context s = none := by
  apply run_of_endless_check nodes up
  rw [checkTopology, TopologyCheck.run, Config.TopologyCheck.pollFrom, silent]

/-- A scenario without any pause between its polls does not end while they show too little. -/
theorem run_of_still (still : context.harness.topology.pollInterval = 0)
    (time : context.harness.topology.checkTimeout ≠ 0)
    (low : ∀ s, ∃ observed t, (c.topologyVersion s).finish = some ⟨.ok observed, 0, t⟩ ∧
      observed < context.nodes - 1) : run c context s = none :=
  run_of_endless_check nodes up (TopologyCheck.run_of_still still time low t)

/-- No setting ends a scenario whose request to start the application is never answered. -/
theorem run_of_silent_request {config : Config.Node}
    (seen : checkTopology c context (context.nodes - 1) t = some ⟨.ok (), checked, u⟩)
    (found : clientConfig c u = some ⟨.ok config, read, v⟩)
    (silent : (c.startApplication config application.entryPoint params v).finish = none) :
    run c context s = none := by
  apply run_of_endless_body nodes
  have endless : Activity.call (c.startApplication config application.entryPoint params) v = none :=
    silent
  simp only [body, bind, Activity.bind, up, seen, found, endless]

end

end ComputeExceptions

end ClusterHarness
