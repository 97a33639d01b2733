import ClusterHarness.Proofs.Cluster.History
import ClusterHarness.Proofs.InProcess.Calls
import ClusterHarness.Proofs.Scenario.Decision
import Mathlib.Order.Monotone.Basic

/-! # Giving up early

A check gives up as soon as it sees a version that is too high, and it is content with the first version
that is right. A patient checker would poll until the time is up and then look at all that it has seen.
As long as versions do not go down the two agree, and the versions of a cluster that is not started
anew never do.
-/

namespace ClusterHarness

namespace TopologyCheck

/-- Whether a patient checker passes: it polls until the time is up, whatever it sees, and one of its
polls has seen what is expected. -/
def PatientPasses (expected : Nat) (settings : Config.TopologyCheck)
    (replies : Nat → Except Error Nat) : Prop :=
  ∃ latest, IsLeast {k | IsLate settings k} latest ∧ ∃ k ≤ latest, replies k = .ok expected

variable {σ : Type} {query : σ → Course σ Nat} {pass : Nat → σ → σ} {expected : Nat}
  {settings : Config.TopologyCheck} {replies : Nat → Except Error Nat} {versions : Nat → Nat}

theorem verdict_eq_ok {reply : Except Error Nat} :
    verdict expected reply = .ok () ↔ reply = .ok expected := by
  cases reply with
  | error e => simp [verdict]
  | ok observed => by_cases same : observed = expected <;> simp [verdict, same]

/-- The last poll of a check has seen what is expected just when one of a patient checker has. -/
theorem patientPasses_iff {last : Nat} (rising : Monotone versions)
    (interval : settings.pollInterval ≠ 0) (same : ∀ k, replies k = .ok (versions k))
    (ends : IsLeast {k | Ends expected settings replies k} last) :
    PatientPasses expected settings replies ↔ versions last = expected := by
  obtain ⟨poll, late⟩ := exists_isLate interval
  constructor
  · rintro ⟨latest, lateness, k, inTime, seen⟩
    have found : versions k = expected := Except.ok.inj ((same k).symm.trans seen)
    have decides : Decides expected (replies k) := seen ▸ Nat.le_refl expected
    have before : last ≤ k := ends.2 (.inl decides)
    have low : versions last ≤ expected := found ▸ rising before
    rcases ends.1 with high | late
    · rw [same last] at high
      exact Nat.le_antisymm low high
    · rw [Nat.le_antisymm before (Nat.le_trans inTime (lateness.2 late)), found]
  · intro found
    have lateness := Nat.isLeast_find ⟨poll, late⟩
    exact ⟨_, lateness, last, ends.2 (.inr lateness.1), (same last).trans (congrArg _ found)⟩

/-- A check of versions that do not go down succeeds just when a patient checker passes. -/
theorem Prompt.ok_iff {asked left : Nat → σ} (prompt : Prompt query pass settings replies asked left)
    (rising : Monotone versions) (interval : settings.pollInterval ≠ 0)
    (same : ∀ k, replies k = .ok (versions k)) :
    (∃ elapsed t, run query pass expected settings (asked 0) = some ⟨.ok (), elapsed, t⟩) ↔
      PatientPasses expected settings replies := by
  obtain ⟨last, ends⟩ := exists_last interval expected replies
  rw [prompt.run_eq ends, patientPasses_iff rising interval same ends]
  constructor
  · rintro ⟨elapsed, t, passed⟩
    have ok := verdict_eq_ok.mp (congrArg Finish.result (Option.some.inj passed))
    exact Except.ok.inj ((same last).symm.trans ok)
  · intro found
    rw [verdict_eq_ok.mpr ((same last).trans (congrArg _ found))]
    exact ⟨_, _, rfl⟩

end TopologyCheck

namespace InProcess

open Cluster TopologyCheck

namespace State

variable {s : State} {states : Nat → State} {c : ClusterId} {l : LaunchId} {x : Launch}

theorem topology_of_running (running : s.running? c = some l) (found : s.launches[l]? = some x) :
    s.topology c = .ok x.topology.snapshot := by
  obtain ⟨cluster, there, same⟩ := Option.bind_eq_some_iff.mp running
  simp [topology, there, same, found]

/-- The versions that a cluster shows never go down as long as the same launch runs. -/
theorem exists_versions {kind : Move → Bool} (found : (states 0).launches[l]? = some x)
    (running : ∀ k, (states k).running? c = some l) (via : ∀ k, Via kind (states k) (states (k + 1))) :
    ∃ versions : Nat → Nat, Monotone versions ∧
      ∀ k, ((states k).topology c).map Snapshot.version = .ok (versions k) := by
  have there : ∀ k, ∃ y, (states k).launches[l]? = some y := by
    intro k
    induction k with
    | zero => exact ⟨x, found⟩
    | succ k ih =>
        obtain ⟨y, here⟩ := ih
        obtain ⟨z, next, -⟩ := (via k).later here
        exact ⟨z, next⟩
  choose launch here using there
  refine ⟨fun k => (launch k).topology.version, monotone_nat_of_le_succ fun k => ?_, fun k => ?_⟩
  · obtain ⟨y, next, later⟩ := (via k).later (here k)
    cases next.symm.trans (here (k + 1))
    exact later.version
  · rw [topology_of_running (running k) (here k)]
    rfl

/-- What runs in a cluster goes on running as time passes. -/
theorem running?_pass (running : s.running? c = some l) (duration : Nat) :
    (s.pass duration).running? c = some l := by
  obtain ⟨cluster, found, same⟩ := Option.bind_eq_some_iff.mp running
  have beside := ((pass_via duration s).mono Move.isAside_of_isUnasked).beside
  exact Option.bind_eq_some_iff.mpr ⟨cluster, beside.clusters found, same⟩

/-- The state in which a check of a cluster comes to a poll, when nobody else makes a call. -/
def atPoll (settings : Config.TopologyCheck) (s : State) (poll : Nat) : State :=
  (State.pass (pause settings))^[poll] s

theorem prompt_atPoll (settings : Config.TopologyCheck) (c : ClusterId) (s : State) :
    Prompt (topologyVersion c) State.pass settings
      (fun k => ((s.atPoll settings k).topology c).map Snapshot.version) (s.atPoll settings)
      (s.atPoll settings) where
  reply _ := rfl
  next k := Function.iterate_succ_apply' _ k s

theorem running?_atPoll (settings : Config.TopologyCheck) (running : s.running? c = some l) (poll : Nat) :
    (s.atPoll settings poll).running? c = some l := by
  induction poll with
  | zero => exact running
  | succ poll ih =>
      rw [(prompt_atPoll settings c s).next]
      exact running?_pass ih _

end State

/-- A check of versions that do not go down succeeds just when a patient checker passes. A topology never
shows a lower version than before, whoever joins or leaves. So this holds of each check of a cluster that
runs, and also when other calls are made between two polls, as long as the same launch runs at each
poll. -/
theorem giving_up_early_changes_no_verdict (expected : Nat) (settings : Config.TopologyCheck)
    (interval : settings.pollInterval ≠ 0) :
    (∀ versions : Nat → Nat, Monotone versions →
      ((∃ elapsed polls, TopologyCheck.run (answering fun k => .ok (versions k)) (fun _ polls => polls)
          expected settings 0 = some ⟨.ok (), elapsed, polls⟩) ↔
        PatientPasses expected settings fun k => .ok (versions k))) ∧
    (∀ (t : Topology) (history : List Change),
      t.snapshot.version ≤ (t.afterAll history).snapshot.version) ∧
    (∀ (c : ClusterId) (l : LaunchId) (s : State),
      (∃ x, s.launches[l]? = some x) → s.running? c = some l →
      ((∃ elapsed t, TopologyCheck.run (State.topologyVersion c) State.pass expected settings s =
          some ⟨.ok (), elapsed, t⟩) ↔
        PatientPasses expected settings
          fun k => ((s.atPoll settings k).topology c).map Snapshot.version)) ∧
    ∀ (c : ClusterId) (l : LaunchId) (states : Nat → State),
      (∃ x, (states 0).launches[l]? = some x) → (∀ k, (states k).running? c = some l) →
      (∀ k, ∃ moves, (states k).afterAll? moves = some (states (k + 1))) →
      ((∃ elapsed polls, TopologyCheck.run
          (fun k => (State.topologyVersion c (states k)).mapState fun _ => k + 1) (fun _ polls => polls)
          expected settings 0 = some ⟨.ok (), elapsed, polls⟩) ↔
        PatientPasses expected settings fun k => ((states k).topology c).map Snapshot.version) := by
  refine ⟨?_, Topology.version_le_afterAll, ?_, ?_⟩
  · intro versions rising
    exact (Prompt.answering settings _).ok_iff rising interval fun _ => rfl
  · rintro c l s ⟨x, found⟩ running
    have prompt := s.prompt_atPoll settings c
    have via : ∀ k, Via Move.isUnasked (s.atPoll settings k) (s.atPoll settings (k + 1)) :=
      fun k => prompt.next k ▸ State.pass_via _ _
    obtain ⟨versions, rising, same⟩ := State.exists_versions found (s.running?_atPoll settings running) via
    exact prompt.ok_iff rising interval same
  · rintro c l states ⟨x, found⟩ running moves
    have via : ∀ k, Via (fun _ => true) (states k) (states (k + 1)) := by
      intro k
      obtain ⟨moved, went⟩ := moves k
      exact ⟨moved, by simp, went⟩
    obtain ⟨versions, rising, same⟩ := State.exists_versions found running via
    exact (Prompt.answering settings _).ok_iff rising interval same

/-- A cluster of one member, before it has joined. -/
def beforeJoin : State :=
  (State.afterAll? {} [.addCluster { name := "ignite" }, .accept 0 {} 1, .bind 0, .install 0]).getD {}

/-- The member joins between the first two polls. -/
def whileJoining : Nat → State
  | 0 => beforeJoin
  | _ + 1 => (beforeJoin.afterAll? [.joinSeat 0 0]).getD {}

theorem giving_up_early_changes_no_verdict_joining :
    (∃ elapsed polls, TopologyCheck.run (answering fun k => .ok (k + 1)) (fun _ polls => polls) 3 ⟨25, 10⟩ 0 =
        some ⟨.ok (), elapsed, polls⟩) ∧
      (∃ elapsed t, TopologyCheck.run (State.topologyVersion 0) State.pass 1 ⟨25, 10⟩ beforeJoin =
        some ⟨.ok (), elapsed, t⟩) ∧
      ∃ elapsed polls, TopologyCheck.run
          (fun k => (State.topologyVersion 0 (whileJoining k)).mapState fun _ => k + 1)
          (fun _ polls => polls) 1 ⟨25, 10⟩ 0 = some ⟨.ok (), elapsed, polls⟩ := by
  obtain ⟨rising, -⟩ := giving_up_early_changes_no_verdict 3 ⟨25, 10⟩ (by decide)
  obtain ⟨-, -, alone, beside⟩ := giving_up_early_changes_no_verdict 1 ⟨25, 10⟩ (by decide)
  have launch : (beforeJoin.launches[0]?).isSome = true := by decide +kernel
  have there := Option.isSome_iff_exists.mp launch
  have first : beforeJoin.running? 0 = some 0 := by decide +kernel
  refine ⟨?_, ?_, ?_⟩
  · have succ : Monotone fun k : Nat => k + 1 := fun _ _ le => Nat.succ_le_succ le
    exact (rising _ succ).mpr ⟨3, late_after_three_pauses, 2, by decide, rfl⟩
  · have seen : ((beforeJoin.atPoll ⟨25, 10⟩ 1).topology 0).map Snapshot.version = .ok 1 := by
      decide +kernel
    exact (alone 0 0 beforeJoin there first).mpr ⟨3, late_after_three_pauses, 1, by decide, seen⟩
  · have next : (whileJoining 1).running? 0 = some 0 := by decide +kernel
    have possible : (beforeJoin.afterAll? [.joinSeat 0 0]).isSome = true := by decide +kernel
    have running : ∀ k, (whileJoining k).running? 0 = some 0
      | 0 => first
      | _ + 1 => next
    have moves : ∀ k, ∃ moves, (whileJoining k).afterAll? moves = some (whileJoining (k + 1))
      | 0 => ⟨_, State.afterAll?_getD possible⟩
      | _ + 1 => ⟨[], rfl⟩
    have seen : ((whileJoining 1).topology 0).map Snapshot.version = .ok 1 := by decide +kernel
    refine (beside 0 0 whileJoining there running moves).mpr ?_
    exact ⟨3, late_after_three_pauses, 1, by decide, seen⟩

/-- A checker that is patient for as long as its settings say may poll less often than a check, as no wait
takes longer than the longest one. -/
theorem patience_is_cut_short :
    ¬ ∀ (expected : Nat) (settings : Config.TopologyCheck) (versions : Nat → Nat),
      settings.pollInterval ≠ 0 → settings.pollInterval ≤ settings.checkTimeout → Monotone versions →
      ((∃ elapsed polls, TopologyCheck.run (answering fun k => .ok (versions k)) (fun _ polls => polls)
          expected settings 0 = some ⟨.ok (), elapsed, polls⟩) ↔
        ∃ latest,
          IsLeast {k | settings.checkTimeout.toNat ≤ k * settings.pollInterval.toNat} latest ∧
          ∃ k ≤ latest, versions k = expected) := by
  intro claim
  have rising : Monotone fun k : Nat => k - 1 := fun _ _ le => Nat.sub_le_sub_right le 1
  have agrees := claim 1 ⟨1000000000000, 1000000000000⟩ _ (by decide) (by decide) rising
  have third : Ends 1 ⟨1000000000000, 1000000000000⟩ (fun k => .ok (k - 1)) 2 := by decide
  have least : IsLeast {k | Ends 1 ⟨1000000000000, 1000000000000⟩ (fun k => .ok (k - 1)) k} 2 := by
    refine ⟨third, fun k ends => ?_⟩
    match k with
    | 0 | 1 => exact absurd ends (by decide)
    | _ + 2 => omega
  obtain ⟨latest, lateness, k, inTime, seen⟩ := agrees.mp ⟨_, _, run_answering least⟩
  have second : latest ≤ 1 := lateness.2 (Nat.le_refl _)
  omega

end InProcess

end ClusterHarness
