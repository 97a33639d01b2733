import ClusterHarness.Proofs.InProcess.FirstStart

/-! # Rounds of start and stop

A stop undoes the start before it, whatever applications have done in between and however they go on. So a
cluster that has been started and stopped any number of times starts like one that has never been
started.
-/

namespace ClusterHarness.InProcess

open Cluster

/-! ## Who is left -/

theorem Run.member_of_inside {x : Run} {node : Member} (inside : x.standing = .inside node) :
    node = x.member := by
  cases stage : x.stage <;> simp only [standing, stage] at inside <;> cases inside <;> rfl

/-- When the tasks of all members have ended, no node that listens somewhere is in the topology. A node
with the id of a member may be there, but it is that of an application. -/
theorem State.IsReachable.away_of_isDeserted {s : State} {l : LaunchId} {x : Launch} {m : Member}
    (reached : s.IsReachable) (found : s.launches[l]? = some x) (deserted : s.isDeserted l = true)
    (listens : m.address ≠ none) : m ∉ x.topology.members := by
  obtain ⟨now, files, marks, moves, run⟩ := reached
  have b := (Traced.afterAll (l := l) run).2.bracketed found
  intro there
  obtain ⟨⟨task, node⟩, present, same⟩ := List.mem_map.mp (b.members.mem_iff.mp there)
  have inside : s.standing l task = .inside m := same ▸ b.owner.mp present
  cases task with
  | seat i =>
      simp only [State.standing, found, Option.bind_some] at inside
      cases seated : x.seats[i]? with
      | none => simp [seated] at inside
      | some other =>
          rw [State.isDeserted, found, List.all_eq_true] at deserted
          have ended := deserted other (List.mem_of_getElem? seated)
          cases stage : other.stage <;> simp [stage] at ended
          simp [seated, Seat.standing, stage] at inside
  | run r =>
      simp only [State.standing] at inside
      split at inside
      · rename_i y found
        split at inside
        · exact listens (congrArg Member.address (Run.member_of_inside inside))
        · cases inside
      · cases inside

/-! ## The stop after a start -/

/-- Everything is as it was before a start, and its launch has none of its members any more. -/
structure Undone (s : State) (c : ClusterId) (cluster : ManagedCluster) (l : LaunchId)
    (members : List Member) (u : State) : Prop where
  network : u.network = s.network
  found : u.clusters[c]? = some cluster
  idle : u.IsIdle c cluster.name
  left : ∃ x, u.launches[l]? = some x ∧ x.seats.map Seat.member = members ∧
    ∀ m ∈ members, m ∉ x.topology.members
  again : State.stopCluster c u = .now (.ok ()) u

namespace State.Started

variable {s t u : State} {c : ClusterId} {cluster : ManagedCluster} {config : Config.Node}
  {nodes : Nat} {l : LaunchId}

theorem underway (started : s.Started c config nodes l t) (found : s.clusters[c]? = some cluster) :
    cluster.Accepts config nodes ∧ ∃ x, Underway s.network c cluster
      ((List.range nodes).map cluster.addressAt) l .live x t := by
  obtain ⟨begun, x, accepted, ⟨moves, own, went⟩, there, live⟩ := started
  obtain ⟨accepts, y, start⟩ := Underway.accept found accepted
  obtain ⟨y, reached⟩ := start.afterAll own went
  cases there.symm.trans reached.found
  exact ⟨accepts, x, live ▸ reached⟩

theorem members (started : s.Started c config nodes l t) (found : s.clusters[c]? = some cluster)
    {x : Launch} (there : t.launches[l]? = some x) : x.seats.map Seat.member =
      (List.range nodes).map (cluster.memberAt config (s.freshId cluster.name)) := by
  obtain ⟨begun, y, accepted, via, -⟩ := started
  exact via.members_of_accept found accepted there

theorem isReachable (started : s.Started c config nodes l t) (reached : s.IsReachable) :
    t.IsReachable := by
  obtain ⟨begun, x, accepted, via, -⟩ := started
  exact via.isReachable (reached.accept accepted)

/-- Whenever a stop ends, it has undone the start. -/
theorem undone (started : s.Started c config nodes l t) (reached : s.IsReachable)
    (found : s.clusters[c]? = some cluster) (stopped : t.Stopped c u) :
    Undone s c cluster l
      ((List.range nodes).map (cluster.memberAt config (s.freshId cluster.name))) u := by
  obtain ⟨accepts, x, start⟩ := started.underway found
  have running : t.running? c = some l := start.running?
  have again := stopped.isReachable (started.isReachable reached)
  cases stopped with
  | idle idle => simp [halt?, running, start.found] at idle
  | @deserted k halted u halt via deserted =>
      have same : t.halt? c = some (l, t.halted c l x.addresses) := by
        simp only [halt?, running, start.found, bind, Option.bind]
        rfl
      cases same.symm.trans halt
      have step : t.after? (.halt c) = some (t.halted c l x.addresses) := by simp [after?, halt]
      have beside := via.beside
      have network : u.network = s.network := by
        rw [beside.network, halted, start.held]
        exact Network.unbindAll_bindAll (start.bound rfl)
      have cleared : u.clusters[c]? = some cluster := by
        apply beside.clusters
        simp [halted, updateLaunch, updateCluster, start.cluster, ManagedCluster.stopped_eq accepts.idle]
      have idle : u.running? c = none := by simp [running?, cleared, accepts.idle]
      obtain ⟨y, after, same⟩ := later_of_after? step start.found
      obtain ⟨z, last, kept⟩ := via.later after
      have members := (same.trans kept).members.trans (started.members found start.found)
      refine ⟨network, cleared, isIdle_of_found cleared accepts.idle, ⟨z, last, members, ?_⟩,
        stopCluster_of_idle idle⟩
      intro m member
      obtain ⟨i, -, rfl⟩ := List.mem_map.mp member
      exact again.away_of_isDeserted last deserted (Option.some_ne_none _)

/-- A stop after a start takes no time, however much else there is to do. -/
theorem stopCluster_finish (started : s.Started c config nodes l t)
    (found : s.clusters[c]? = some cluster) :
    ∃ u, (stopCluster c t).finish = some ⟨.ok (), 0, u⟩ ∧ t.Stopped c u := by
  obtain ⟨accepts, x, start⟩ := started.underway found
  obtain ⟨u, finish, -⟩ := start.stop accepts.idle rfl
  exact ⟨u, finish, stopped_of_stopCluster finish⟩

end State.Started

/-! ## Any number of rounds -/

/-- So many rounds of start and stop of a cluster. All the time applications are started and go on, the
clock runs, and nothing else is started or stopped. -/
inductive Rounds (c : ClusterId) : Nat → State → State → Prop where
  | none {s} : Rounds c 0 s s
  | aside {n s t u} (before : Rounds c n s t) (via : Via Move.isAside t u) : Rounds c n s u
  | round {n s t u v config nodes l} (before : Rounds c n s t)
      (started : t.Started c config nodes l u) (stopped : u.Stopped c v) : Rounds c (n + 1) s v

theorem Rounds.kept {c : ClusterId} {cluster : ManagedCluster} {n : Nat} {s t : State}
    (rounds : Rounds c n s t) (reached : s.IsReachable) (found : s.clusters[c]? = some cluster) :
    t.IsReachable ∧ t.network = s.network ∧ t.clusters[c]? = some cluster := by
  induction rounds with
  | none => exact ⟨reached, rfl, found⟩
  | aside before via ih =>
      obtain ⟨reached, network, found⟩ := ih reached found
      exact ⟨via.isReachable reached, via.beside.network.trans network, via.beside.clusters found⟩
  | round before started stopped ih =>
      obtain ⟨reached, network, found⟩ := ih reached found
      have undone := started.undone reached found stopped
      exact ⟨stopped.isReachable (started.isReachable reached), undone.network.trans network, undone.found⟩

open State in
/-- After any number of rounds of start and stop the bindings are those from before the first round, and
nothing runs in the cluster. A further stop returns `Ok` and changes nothing, and a further start goes
like a first one: what can be told of it depends on the request, on these bindings and on the files
only. Once it has succeeded, a stop returns `Ok` without delay, whatever applications do; and whenever a
stop has ended, the bindings are those from before the start again, nothing runs in the cluster, and no
member of the launch is in its topology any more. -/
theorem stop_undoes_start {s t : State} {c : ClusterId} {cluster : ManagedCluster} {n : Nat}
    (reached : s.IsReachable) (found : s.clusters[c]? = some cluster) (idle : cluster.running = none)
    (rounds : Rounds c n s t) :
    (t.network = s.network ∧ t.IsIdle c cluster.name ∧ stopCluster c t = .now (.ok ()) t) ∧
    (∀ config nodes, (startCluster c config nodes t).finish.map (report c) =
      cluster.firstStart config nodes (t.freshId cluster.name) s.network t.files) ∧
    (∀ config nodes elapsed u, (startCluster c config nodes t).finish = some ⟨.ok (), elapsed, u⟩ →
      ∃ l, t.Started c config nodes l u) ∧
    ∀ config nodes l u, t.Started c config nodes l u →
      (∃ v, (stopCluster c u).finish = some ⟨.ok (), 0, v⟩ ∧ u.Stopped c v) ∧
      ∀ v, u.Stopped c v → Undone s c cluster l
        ((List.range nodes).map (cluster.memberAt config (t.freshId cluster.name))) v := by
  obtain ⟨reached, network, found⟩ := rounds.kept reached found
  have still : t.running? c = none := by simp [running?, found, idle]
  refine ⟨⟨network, isIdle_of_found found idle, stopCluster_of_idle still⟩, ?_, ?_, ?_⟩
  · intro config nodes
    rw [← network]
    exact startCluster_report reached found idle
  · intro config nodes elapsed u ended
    exact started_of_startCluster ended
  · intro config nodes l u started
    refine ⟨started.stopCluster_finish found, fun v stopped => ?_⟩
    have undone := started.undone reached found stopped
    exact { undone with network := undone.network.trans network }

/-- A cluster that has not been started yet, and an application. -/
def beforeRound : State := { clusters := [{ name := "ignite" }], applications := [{}] }

/-- The cluster has been started, and the application has joined it. -/
def withGuest : State :=
  (beforeRound.afterAll?
    [.accept 0 {} 2, .bind 0, .install 0, .joinSeat 0 0, .joinSeat 0 1, .goLive 0,
      .startRun 0 (({ consistentId := some "guest" } : Config.Node).asClient ["127.0.0.1:47500"])
        "compute.ExceptionGenerationApplication",
      .stepRun 0]).getD {}

/-- The cluster has been stopped, and the application is still attached to what is left of it. -/
def afterRound : State := (withGuest.afterAll? [.halt 0, .leaveSeat 0 0, .leaveSeat 0 1]).getD {}

open State in
theorem stop_undoes_start_guest :
    Rounds 0 1 beforeRound afterRound ∧
      afterRound.launches.map (fun x => x.topology.members.map Member.id) = [["guest"]] ∧
      (startCluster 0 { consistentId := some "srv" } 3 afterRound).finish.map (report 0) =
        some
          { result := .ok (), elapsed := 0, topology := .ok ⟨3, 3, 0⟩
            config := some { consistentId := some "srv" }
            addresses := ["127.0.0.1:47500", "127.0.0.1:47501", "127.0.0.1:47502"]
            bound := ["127.0.0.1:47500", "127.0.0.1:47501", "127.0.0.1:47502"], files := .empty } := by
  have started : beforeRound.Started 0 {} 2 0 withGuest := by
    have went : beforeRound.afterAll? _ = some withGuest := afterAll?_getD (by decide +kernel)
    obtain ⟨begun, first, went⟩ := afterAll?_cons.mp went
    have accepts : ({ name := "ignite" } : ManagedCluster).Accepts {} 2 :=
      ⟨rfl, by decide, rfl, rfl, by decide⟩
    have accepted := accept_ok (s := beforeRound) (c := 0) rfl accepts.plan
    rw [after?, accepted] at first
    cases first
    have live : withGuest.launches[0]?.map Launch.phase = some .live := by decide +kernel
    obtain ⟨x, there, phase⟩ := Option.map_eq_some_iff.mp live
    exact ⟨_, x, accepted, ⟨_, by decide, went⟩, there, phase⟩
  have stopped : withGuest.Stopped 0 afterRound := by
    have went : withGuest.afterAll? _ = some afterRound := afterAll?_getD (by decide +kernel)
    obtain ⟨halted, first, went⟩ := afterAll?_cons.mp went
    obtain ⟨⟨l, halted⟩, halt, rfl⟩ := Option.map_eq_some_iff.mp first
    have number : (withGuest.halt? 0).map Prod.fst = some 0 := by decide +kernel
    rw [halt] at number
    cases number
    exact .deserted halt ⟨_, by decide, went⟩ (by decide +kernel)
  have rounds : Rounds 0 1 beforeRound afterRound := .round .none started stopped
  have reached : beforeRound.IsReachable :=
    ⟨0, .empty, distinction, [.addCluster { name := "ignite" }, .addApplication], rfl⟩
  obtain ⟨-, again, -⟩ := stop_undoes_start reached rfl rfl rounds
  exact ⟨rounds, by decide +kernel, (again _ _).trans (by decide +kernel)⟩

end ClusterHarness.InProcess
