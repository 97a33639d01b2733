import ClusterHarness.Proofs.InProcess.Abandoned
import ClusterHarness.Proofs.InProcess.Running

/-! # Calls are made of moves

A start call that succeeds and a stop call that ends have come about by moves: those of the call itself,
and in between what happens without anybody asking for it. What is known of all such moves holds of the
calls too.
-/

namespace ClusterHarness.InProcess

open Cluster Compute

/-- Moves of some kind lead from one state to another. -/
def Via (kind : Move → Bool) (s t : State) : Prop :=
  ∃ moves : List Move, (∀ m ∈ moves, kind m = true) ∧ s.afterAll? moves = some t

namespace Via

variable {kind other : Move → Bool} {s t u : State}

theorem refl (s : State) : Via kind s s := ⟨[], by simp, rfl⟩

theorem one {m : Move} (own : kind m = true) (h : s.after? m = some t) : Via kind s t :=
  ⟨[m], by simpa using own, by simpa [State.afterAll?] using h⟩

theorem trans (first : Via kind s t) (second : Via kind t u) : Via kind s u := by
  obtain ⟨before, own, went⟩ := first
  obtain ⟨after, own', went'⟩ := second
  refine ⟨before ++ after, ?_, State.afterAll?_append went went'⟩
  intro m member
  rcases List.mem_append.mp member with early | late
  · exact own m early
  · exact own' m late

theorem mono (via : Via kind s t) (weaker : ∀ {m : Move}, kind m = true → other m = true) :
    Via other s t := by
  obtain ⟨moves, own, went⟩ := via
  exact ⟨moves, fun m member => weaker (own m member), went⟩

theorem beside (via : Via Move.isAside s t) : Beside s t := by
  obtain ⟨moves, aside, went⟩ := via
  exact .afterAll aside went

end Via

/-- Whether a move happens without anybody asking for it: a task goes on, or time passes. -/
def Move.isUnasked : Move → Bool
  | .pass _ => true
  | m => m.isOfTask

/-- Whether a move is one of the start call of a launch, or happens without anybody asking for it. -/
def Move.isOfCall (l : LaunchId) : Move → Bool
  | .bind k | .render k | .install k => k = l
  | m => m.isUnasked

namespace Move

variable {m : Move} {l : LaunchId}

theorem isUnasked_of_isOfTask (own : m.isOfTask = true) : m.isUnasked = true := by
  cases m <;> first | exact own | rfl

theorem isAside_of_isUnasked (own : m.isUnasked = true) : m.isAside = true := by
  cases m <;> first | rfl | cases own

theorem isOfCall_of_isUnasked (own : m.isUnasked = true) : m.isOfCall l = true := by
  cases m <;> first | exact own | cases own

theorem isOfStart_of_isOfCall (own : m.isOfCall l = true) : m.isOfStart l = true := by
  cases m <;> first | exact own | rfl

end Move

/-- What happens unasked starts no application anew. -/
theorem Via.runs {s t : State} {l : LaunchId} (via : Via (Move.isOfCall l) s t) :
    t.runs.map Run.launch = s.runs.map Run.launch := by
  obtain ⟨moves, own, went⟩ := via
  refine State.afterAll?_invariant (P := fun t => t.runs.map Run.launch = s.runs.map Run.launch)
    (fun m => m.isOfCall l = true) rfl ?_ own went
  intro u v m before own last
  have kept : v.runs.map Run.launch = u.runs.map Run.launch := by
    cases Effect.of_after? last with
    | bound | refused | rendered | unrendered | installed | joined | turnedAway | calledOff | left
    | passed => rfl
    | runJoined | runTurnedAway | runFinished | runUnsent | runSent | runJudged | runLeft =>
        exact map_modify_of_same _ _ fun _ => rfl
    | _ => cases own
  exact kept.trans before

namespace State

variable {s t u : State} {c : ClusterId} {l : LaunchId} {config : Config.Node} {nodes : Nat}

/-! ## Waiting -/

/-- All tasks do what they can, and then the clock goes on. -/
theorem settle_via {time : Nat} (ahead : s.now ≤ time) :
    Via Move.isUnasked s { s.settle with now := time } := by
  have settled : Via Move.isUnasked s s.settle := Via.mono (Led.settle s) Move.isUnasked_of_isOfTask
  have now : s.settle.now = s.now := by rw [(Led.settle s).rest]
  refine settled.trans (.one (m := .pass (time - s.settle.now)) rfl ?_)
  simp only [after?, Nat.add_sub_cancel' (now ▸ ahead)]

theorem now_lt_of_nextDue? {time : Nat} (next : s.settle.nextDue? = some time) : s.now < time := by
  obtain ⟨due, -⟩ := nextDue?_eq_some.mp next
  have now : s.settle.now = s.now := by rw [(Led.settle s).rest]
  exact now ▸ s.settle_rests.lt_of_due due

theorem waitUntil_via {holds : State → Bool} {leaps : Nat} (h : s.waitUntil holds leaps = some t) :
    Via Move.isUnasked s t ∧ holds t = true := by
  induction leaps generalizing s with
  | zero => cases h
  | succ leaps ih =>
      rw [waitUntil] at h
      split at h
      · rename_i there
        cases h
        exact ⟨Via.mono (Led.settle s) Move.isUnasked_of_isOfTask, there⟩
      · split at h
        · rename_i time next
          obtain ⟨waited, there⟩ := ih h
          exact ⟨(settle_via (Nat.le_of_lt (now_lt_of_nextDue? next))).trans waited, there⟩
        · cases h

theorem passUntil_via {target : Nat} (ahead : s.now ≤ target) (leaps : Nat) :
    Via Move.isUnasked s (s.passUntil target leaps) := by
  induction leaps generalizing s with
  | zero =>
      refine .one (m := .pass (target - s.now)) rfl ?_
      simp only [after?, Nat.add_sub_cancel' ahead, passUntil]
  | succ leaps ih =>
      simp only [passUntil]
      split
      · rename_i time next
        split
        · rename_i soon
          exact (settle_via (Nat.le_of_lt (now_lt_of_nextDue? next))).trans (ih (Nat.le_of_lt soon))
        · exact settle_via ahead
      · exact settle_via ahead

theorem pass_via (duration : Nat) (s : State) : Via Move.isUnasked s (s.pass duration) := by
  rw [pass]
  split
  · exact .refl s
  · exact passUntil_via (Nat.le_add_right _ _) _

theorem waitFor_via {holds : State → Bool} {result : State → Except Error Unit} {x : Finish State Unit}
    (h : (waitFor holds result s).finish = some x) :
    Via Move.isUnasked s x.state ∧ holds x.state = true ∧ x.result = result x.state := by
  rw [waitFor] at h
  split at h
  · rename_i there
    cases h
    exact ⟨.refl s, there, rfl⟩
  · obtain ⟨t, waited, rfl⟩ := Option.map_eq_some_iff.mp h
    obtain ⟨via, there⟩ := waitUntil_via waited
    exact ⟨via, there, rfl⟩

/-! ## The start -/

theorem launchSteps_via (l : LaunchId) (steps : Nat) (s : State) :
    Via (Move.isOfCall l) s (s.launchSteps l steps) := by
  induction steps generalizing s with
  | zero => exact .refl s
  | succ steps ih =>
      rw [launchSteps]
      split
      · rename_i t step
        refine Via.trans ?_ (ih t)
        cases bind : s.bind? l with
        | some u =>
            rw [bind] at step
            cases step
            exact .one (m := .bind l) (by simp [Move.isOfCall]) bind
        | none =>
            cases render : s.render? l with
            | some u =>
                rw [bind, render] at step
                cases step
                exact .one (m := .render l) (by simp [Move.isOfCall]) render
            | none =>
                rw [bind, render] at step
                exact .one (m := .install l) (by simp [Move.isOfCall]) step
      · exact .refl s

theorem awaitMembers_via {x : Finish State Unit} (h : (awaitMembers l s).finish = some x) :
    x.result = .ok () ∧ ∃ t, Via Move.isUnasked s t ∧ t.goLive? l = some x.state := by
  obtain ⟨y, waited, rfl⟩ := Option.map_eq_some_iff.mp h
  obtain ⟨via, live, same⟩ := waitFor_via waited
  have step := goLive?_of_isLive live
  exact ⟨same, y.state, via, by rw [step, Option.getD_some]⟩

/-- A start that succeeds has been accepted, has taken its steps, and has seen all members there. -/
theorem startCluster_via {elapsed : Nat}
    (h : (startCluster c config nodes s).finish = some ⟨.ok (), elapsed, t⟩) :
    ∃ l begun u, s.accept c config nodes = .ok (l, begun) ∧ Via (Move.isOfCall l) begun u ∧
      u.goLive? l = some t := by
  cases accepted : s.accept c config nodes with
  | error e =>
      simp only [startCluster, beginStart, accepted] at h
      cases h
  | ok first =>
      obtain ⟨l, begun⟩ := first
      have bound : Via (Move.isOfCall l) begun ((begun.bind? l).getD begun) := by
        cases bind : begun.bind? l with
        | some u => exact .one (m := .bind l) (by simp [Move.isOfCall]) bind
        | none => exact .refl begun
      obtain ⟨halfway, via, began⟩ : ∃ halfway, Via (Move.isOfCall l) begun halfway ∧
          s.beginStart c config nodes = (.ok l, halfway) := by
        simp only [beginStart, accepted]
        split
        · exact ⟨_, bound, rfl⟩
        · exact ⟨_, bound.trans (launchSteps_via l (nodes + 1) _), rfl⟩
      simp only [startCluster, began] at h
      split at h
      · cases h
      · obtain ⟨-, u, waited, live⟩ := awaitMembers_via h
        have stepped := via.trans (launchSteps_via l (nodes + 1) halfway)
        exact ⟨l, begun, u, rfl, stepped.trans (waited.mono Move.isOfCall_of_isUnasked), live⟩

/-- A start call has succeeded by some state, with other calls and all tasks going on beside it and
after it, but none that starts or stops a cluster. -/
def Started (s : State) (c : ClusterId) (config : Config.Node) (nodes : Nat) (l : LaunchId)
    (t : State) : Prop :=
  ∃ begun x, s.accept c config nodes = .ok (l, begun) ∧ Via (Move.isOfStart l) begun t ∧
    t.launches[l]? = some x ∧ x.phase = .live

/-- A start call that returns `Ok` has succeeded. -/
theorem started_of_startCluster {elapsed : Nat}
    (h : (startCluster c config nodes s).finish = some ⟨.ok (), elapsed, t⟩) :
    ∃ l, s.Started c config nodes l t := by
  obtain ⟨l, begun, u, accepted, via, live⟩ := startCluster_via h
  have last : Via (Move.isOfStart l) u t := .one (m := .goLive l) rfl live
  cases Effect.of_goLive? live with
  | @live _ x found phase enough =>
      refine ⟨l, begun, { x with phase := .live }, accepted,
        (via.mono Move.isOfStart_of_isOfCall).trans last, ?_, rfl⟩
      simp [setPhase, updateLaunch, found]

/-! ## The stop -/

/-- A stop call has ended, with other calls and all tasks going on beside it, but none that starts or
stops a cluster. -/
inductive Stopped (c : ClusterId) (s : State) : State → Prop where
  | idle (idle : s.halt? c = none) : Stopped c s s
  | deserted {l : LaunchId} {halted t : State} (halt : s.halt? c = some (l, halted))
      (via : Via Move.isAside halted t) (deserted : t.isDeserted l = true) : Stopped c s t

theorem stopped_of_stopCluster {x : Finish State Unit} (h : (stopCluster c s).finish = some x) :
    s.Stopped c x.state := by
  rw [stopCluster] at h
  cases halt : s.halt? c with
  | none =>
      rw [halt] at h
      cases h
      exact .idle halt
  | some next =>
      obtain ⟨l, halted⟩ := next
      rw [halt] at h
      obtain ⟨via, deserted, -⟩ := waitFor_via h
      exact .deserted halt (via.mono Move.isAside_of_isUnasked) deserted

end State

/-- Whether the process can come to a state at all. -/
def State.IsReachable (s : State) : Prop :=
  ∃ now files marks moves, State.afterAll? { now, files, marks } moves = some s

theorem Via.isReachable {kind : Move → Bool} {s t : State} (via : Via kind s t)
    (reached : s.IsReachable) : t.IsReachable := by
  obtain ⟨now, files, marks, before, reached⟩ := reached
  obtain ⟨moves, -, went⟩ := via
  exact ⟨now, files, marks, before ++ moves, State.afterAll?_append reached went⟩

theorem State.IsReachable.step {s t : State} {m : Move} (reached : s.IsReachable)
    (h : s.after? m = some t) : t.IsReachable := by
  have via : Via (fun _ => true) s t := .one rfl h
  exact via.isReachable reached

theorem State.IsReachable.isAttached {s : State} (reached : s.IsReachable) : s.IsAttached := by
  obtain ⟨now, files, marks, moves, reached⟩ := reached
  exact isAttached_of_afterAll reached

theorem State.IsReachable.accept {s t : State} {c : ClusterId} {config : Config.Node} {nodes : Nat}
    {l : LaunchId} (reached : s.IsReachable) (h : s.accept c config nodes = .ok (l, t)) :
    t.IsReachable :=
  reached.step (m := .accept c config nodes) (by simp [State.after?, h, Except.toOption])

theorem State.Stopped.isReachable {s t : State} {c : ClusterId} (stopped : s.Stopped c t)
    (reached : s.IsReachable) : t.IsReachable := by
  cases stopped with
  | idle => exact reached
  | deserted halt via =>
      exact via.isReachable (reached.step (m := .halt c) (by simp [State.after?, halt]))

/-! ## The members of a launch -/

/-- The same launch at a later time: it is as it was planned, and its version has not gone down. -/
structure Launch.Later (x y : Launch) : Prop where
  cluster : y.cluster = x.cluster
  config : y.topology.config = x.topology.config
  members : y.seats.map Seat.member = x.seats.map Seat.member
  version : x.topology.version ≤ y.topology.version

namespace Launch.Later

variable {x y z : Launch}

theorem refl (x : Launch) : x.Later x := ⟨rfl, rfl, rfl, Nat.le_refl _⟩

theorem trans (first : x.Later y) (second : y.Later z) : x.Later z :=
  ⟨second.cluster.trans first.cluster, second.config.trans first.config,
    second.members.trans first.members, Nat.le_trans first.version second.version⟩

theorem setTopology {topology : Topology} (config : topology.config = x.topology.config)
    (version : x.topology.version ≤ topology.version) : x.Later { x with topology } :=
  ⟨rfl, config, rfl, version⟩

theorem join {topology : Topology} {m : Member} (room : x.topology.join m = .ok topology) :
    x.Later { x with topology } := by
  have joined := Topology.join_ok room
  exact setTopology joined.config (joined.version ▸ Nat.le_succ _)

theorem leave (x : Launch) (id : String) :
    x.Later { x with topology := (x.topology.leave? id).getD x.topology } :=
  setTopology Topology.config_leave Topology.version_le_leave

theorem setSeat (x : Launch) (i : Nat) (stage : SeatStage) :
    x.Later { x with seats := x.seats.modify i fun seat => { seat with stage } } :=
  ⟨rfl, rfl, map_modify_of_same _ _ fun _ => rfl, Nat.le_refl _⟩

end Launch.Later

namespace State

variable {s t : State} {l : LaunchId} {x : Launch}

/-- A launch stays as it was planned for ever, and its version never goes down. -/
theorem later_of_after? {m : Move} (h : s.after? m = some t) (found : s.launches[l]? = some x) :
    ∃ y, t.launches[l]? = some y ∧ x.Later y := by
  have modified : ∀ {k : LaunchId} {f : Launch → Launch}, t.launches = s.launches.modify k f →
      (∀ y, s.launches[k]? = some y → y.Later (f y)) → ∃ y, t.launches[l]? = some y ∧ x.Later y := by
    intro k f launches kept
    rw [launches, List.getElem?_modify, found]
    by_cases same : k = l
    · subst same
      exact ⟨f x, by simp, kept x found⟩
    · exact ⟨x, by simp [same], .refl x⟩
  cases Effect.of_after? h with
  | accepted =>
      exact ⟨x, (List.getElem?_append_left (List.getElem?_eq_some_iff.mp found).1).trans found, .refl x⟩
  | bound | refused | rendered | unrendered | live | abandoned | halted =>
      exact modified rfl fun y _ => ⟨rfl, rfl, rfl, Nat.le_refl _⟩
  | installed => exact modified rfl fun y _ => ⟨rfl, rfl, by simp [Launch.seated], Nat.le_refl _⟩
  | joined there seated due now room =>
      refine modified launches_setTopology_setSeat fun y here => ?_
      cases there.symm.trans here
      exact (Launch.Later.join room).trans (.setSeat _ _ _)
  | left there =>
      refine modified launches_setTopology_setSeat fun y here => ?_
      cases there.symm.trans here
      exact (Launch.Later.leave _ _).trans (.setSeat _ _ _)
  | turnedAway | calledOff => exact modified rfl fun y _ => .setSeat _ _ _
  | runJoined _ target _ room =>
      refine modified rfl fun y here => ?_
      cases target.symm.trans here
      exact .join room
  | runSent _ target _ sent =>
      refine modified rfl fun y here => ?_
      cases target.symm.trans here
      obtain ⟨rfl, -⟩ := Shipment.send_ok sent
      exact .setTopology rfl (Nat.le_refl _)
  | runLeft _ target =>
      refine modified rfl fun y here => ?_
      cases target.symm.trans here
      exact .leave _ _
  | addCluster | addApplication | runStarted | runTaken | runTurnedAway | runFinished | runUnsent
  | runJudged | passed => exact ⟨x, found, .refl x⟩

end State

theorem Via.later {kind : Move → Bool} {s t : State} {l : LaunchId} {x : Launch}
    (via : Via kind s t) (found : s.launches[l]? = some x) :
    ∃ y, t.launches[l]? = some y ∧ x.Later y := by
  obtain ⟨moves, own, went⟩ := via
  refine State.afterAll?_invariant (P := fun t => ∃ y, t.launches[l]? = some y ∧ x.Later y)
    (fun m => kind m = true) ⟨x, found, .refl x⟩ ?_ own went
  rintro u v m ⟨y, found, same⟩ - last
  obtain ⟨z, there, kept⟩ := State.later_of_after? last found
  exact ⟨z, there, same.trans kept⟩

/-- An accepted request makes a new launch, and runs stay with theirs. -/
theorem State.new_of_accept {s t : State} {c : ClusterId} {config : Config.Node} {nodes : Nat}
    {l : LaunchId} (h : s.accept c config nodes = .ok (l, t)) :
    l = s.launches.length ∧ t.runs = s.runs := by
  simp only [accept] at h
  split at h
  · simp at h
  · rename_i cluster found
    cases plan : cluster.plan config nodes (s.freshId cluster.name) with
    | error e => simp [plan, bind, Except.bind] at h
    | ok members =>
        simp only [plan, bind, Except.bind, pure, Except.pure, Except.ok.injEq, Prod.mk.injEq] at h
        obtain ⟨rfl, rfl⟩ := h
        exact ⟨rfl, rfl⟩

/-- No application is attached to a launch as long as only its call and the tasks go on. -/
theorem Via.not_attached {s begun t : State} {c : ClusterId} {config : Config.Node} {nodes : Nat}
    {l : LaunchId} (via : Via (Move.isOfCall l) begun t) (reached : s.IsReachable)
    (accepted : s.accept c config nodes = .ok (l, begun)) : ∀ y ∈ t.runs, y.launch ≠ l := by
  intro y member here
  obtain ⟨rfl, runs⟩ := State.new_of_accept accepted
  have attached := List.mem_map_of_mem (f := Run.launch) member
  rw [via.runs, runs] at attached
  exact absurd (here ▸ reached.isAttached _ attached) (Nat.lt_irrefl _)

section

variable {kind : Move → Bool} {s begun t : State} {c : ClusterId} {cluster : ManagedCluster}
  {config : Config.Node} {nodes : Nat} {l : LaunchId} {x : Launch} (via : Via kind begun t)
  (found : s.clusters[c]? = some cluster) (accepted : s.accept c config nodes = .ok (l, begun))
  (there : t.launches[l]? = some x)

include via found accepted there

/-- A launch stays as it was planned when its request was accepted. -/
theorem Via.planned_of_accept :
    (Launch.planned c cluster config
      ((List.range nodes).map (cluster.memberAt config (s.freshId cluster.name)))).Later x := by
  cases plan : cluster.plan config nodes (s.freshId cluster.name) with
  | error e =>
      rw [State.accept_error found plan] at accepted
      cases accepted
  | ok members =>
      rw [State.accept_ok found plan] at accepted
      cases accepted
      obtain ⟨y, here, same⟩ := via.later State.withLaunch_last
      cases there.symm.trans here
      obtain ⟨-, -, rfl⟩ := ManagedCluster.plan_ok plan
      exact same

/-- The members of a launch are those that were planned for it. -/
theorem Via.members_of_accept :
    x.seats.map Seat.member =
      (List.range nodes).map (cluster.memberAt config (s.freshId cluster.name)) := by
  rw [(via.planned_of_accept found accepted there).members]
  simp [Launch.planned]

end

end ClusterHarness.InProcess
