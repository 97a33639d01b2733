import ClusterHarness.Proofs.InProcess.Calls
import ClusterHarness.Proofs.InProcess.FailedStart
import ClusterHarness.Proofs.InProcess.Readiness

/-! # What comes of a start

What can be told of a start call that is left alone, as a function of the request, of what is bound and
of the files. The launches and runs of earlier starts have no part in it, so a start of a cluster that
has been stopped goes like the first one.
-/

namespace ClusterHarness.InProcess

open Cluster

/-- What can be told of a start call that has ended: what it returns, and what the cluster, the network
and the files are then. -/
structure Report where
  result : Except Error Unit
  elapsed : Nat
  topology : Except Error Snapshot
  config : Option Config.Node
  addresses : List String
  bound : List String
  files : Files
  deriving DecidableEq

def State.report (c : ClusterId) (x : Finish State Unit) : Report where
  result := x.result
  elapsed := x.elapsed
  topology := x.state.topology c
  config := x.state.clusterConfig c
  addresses := x.state.discoveryAddresses c
  bound := x.state.network.bindings.map Prod.fst
  files := x.state.files

/-- What can be told of the first start of a cluster. There is nothing to tell when two members ask for
the same id, since the call never ends then. -/
def ManagedCluster.firstStart (cluster : ManagedCluster) (config : Config.Node) (nodes : Nat)
    (freshId : Nat → String) (network : Network LaunchId) (files : Files) : Option Report :=
  let members := (List.range nodes).map (cluster.memberAt config freshId)
  let addresses := (List.range nodes).map cluster.addressAt
  let bound := network.bindings.map Prod.fst
  let failed (e : Error) (files : Files) : Report :=
    { result := .error e, elapsed := 0, topology := .error (.notStarted cluster.name), config := none,
      addresses := [], bound, files }
  match (cluster.refusals config nodes).findSome? id, addresses.find? network.isBound,
    cluster.writeConfigs config members files with
  | some e, _, _ => some (failed e files)
  | none, some a, _ => some (failed (.startupFailed cluster.name (.addressTaken a)) files)
  | none, none, (files, .error e) => some (failed e files)
  | none, none, (files, .ok _) =>
    if (members.map Member.id).Nodup then
      some
        { result := .ok (), elapsed := waitTime cluster.joinDelay, topology := .ok ⟨nodes, nodes, 0⟩,
          config := some config, addresses, bound := bound ++ addresses, files }
    else none

theorem ManagedCluster.members_nodup (cluster : ManagedCluster) (config : Config.Node)
    (freshId : Nat → String) (nodes : Nat) :
    ((List.range nodes).map (cluster.memberAt config freshId)).Nodup := by
  refine List.Nodup.map (fun i j same => ?_) List.nodup_range
  exact addressAt_injective (Option.some.inj (congrArg Member.address same))

namespace State

variable {s t : State} {c : ClusterId} {cluster : ManagedCluster} {config : Config.Node} {nodes : Nat}

theorem report_of_idle (found : s.clusters[c]? = some cluster) (idle : cluster.running = none)
    (result : Except Error Unit) (elapsed : Nat) :
    report c ⟨result, elapsed, s⟩ =
      { result, elapsed, topology := .error (.notStarted cluster.name), config := none
        addresses := [], bound := s.network.bindings.map Prod.fst, files := s.files } := by
  have still := isIdle_of_found found idle
  simp [report, still.topology, still.config, still.addresses]

/-- A start can only succeed if its members have ids of their own. -/
theorem ids_nodup_of_ok (reached : s.IsReachable) (found : s.clusters[c]? = some cluster) {elapsed : Nat}
    (h : (startCluster c config nodes s).finish = some ⟨.ok (), elapsed, t⟩) :
    (((List.range nodes).map (cluster.memberAt config (s.freshId cluster.name))).map Member.id).Nodup := by
  obtain ⟨l, begun, u, accepted, via, live⟩ := startCluster_via h
  obtain ⟨now, files, marks, moves, run⟩ := via.isReachable (reached.accept accepted)
  cases Effect.of_goLive? live with
  | @live _ x there =>
      have members := via.members_of_accept found accepted there
      have clients : ∀ y ∈ u.runs, y.launch = l → y.standing.serves = false :=
        fun y member here => absurd here (via.not_attached reached accepted y member)
      have inside := live_start_has_its_members run there live clients
      have b := (Traced.afterAll (l := l) run).2.bracketed there
      have present : ∀ m ∈ (List.range nodes).map (cluster.memberAt config (s.freshId cluster.name)),
          m ∈ x.topology.members := by
        rw [← members]
        intro m member
        obtain ⟨seat, seated, rfl⟩ := List.mem_map.mp member
        exact (inside seat seated).2.1
      refine List.Nodup.map_on ?_ (ManagedCluster.members_nodup cluster config _ nodes)
      exact fun m hm n hn same => List.inj_on_of_nodup_map b.distinct (present m hm) (present n hn) same

/-- When its members have ids of their own, a launch that has just been installed has all of them there
after the time that they take to join. -/
theorem awaitMembers_report {network : Network LaunchId} {files : Files} {members : List Member}
    {addresses : List String} (attached : s.IsAttached) (found : s.clusters[c]? = some cluster)
    (some : members ≠ []) (distinct : (members.map Member.id).Nodup)
    (servers : ∀ m ∈ members, m.client = false)
    (held : members.filterMap Member.address = addresses)
    (bound : s.network.bindAll addresses s.launches.length = .ok network) :
    ((awaitMembers s.launches.length ({ s with network, files }.withRunning c
      ((Launch.planned c cluster config members).seated (s.now + waitTime cluster.joinDelay))
        nodes)).finish).map (report c) =
      .some
        { result := .ok (), elapsed := waitTime cluster.joinDelay
          topology := .ok ⟨members.length, members.length, 0⟩, config := .some config, addresses
          bound := s.network.bindings.map Prod.fst ++ addresses, files } := by
  let x := (Launch.planned c cluster config members).seated (s.now + waitTime cluster.joinDelay)
  let t := { s with network, files }.withRunning c x nodes
  have due : x.IsDue c (s.now + waitTime cluster.joinDelay) config members := .planned ..
  have same : x.addresses = addresses := due.addresses.trans held
  have installed : Running s c x t := ⟨rfl, rfl, same.symm ▸ bound, withRunning_last⟩
  have quiet := attached.leavesAlone (t := t) rfl
  obtain ⟨-, y, u, ended, running, gathered, shows, later⟩ :=
    installed.awaitMembers_finish quiet due some distinct servers (Nat.le_add_right ..)
  have elapsed : s.now + waitTime cluster.joinDelay - t.now = waitTime cluster.joinDelay :=
    Nat.add_sub_cancel_left ..
  have left : u.network = network ∧ u.files = files := by
    rw [later.rest]
    exact ⟨rfl, rfl⟩
  have names : network.bindings.map Prod.fst = s.network.bindings.map Prod.fst ++ addresses := by
    rw [(Network.bindAll_ok bound).2, List.map_append, List.map_map]
    exact congrArg _ (List.map_id addresses)
  rw [ended, elapsed, Option.map_some]
  simp only [report, running.topology_eq found, running.clusterConfig_eq found,
    running.discoveryAddresses_eq found, left, names, shows.snapshot_of_servers servers, shows.config,
    gathered.addresses, held]

/-- What can be told of a start does not depend on what has been started before. -/
theorem startCluster_report (reached : s.IsReachable) (found : s.clusters[c]? = some cluster)
    (idle : cluster.running = none) :
    (startCluster c config nodes s).finish.map (report c) =
      cluster.firstStart config nodes (s.freshId cluster.name) s.network s.files := by
  have how : s.Outcome c cluster config nodes _ := outcome found
  generalize course : (startCluster c config nodes s).finish = finish at how ⊢
  simp only [ManagedCluster.firstStart]
  cases how with
  | refused refusal =>
      rw [refusal, Option.map_some, report_of_idle found idle]
  | @taken a x acceptable bound failed =>
      have still : (s.withLaunch x nodes).clusters[c]? = some cluster := found
      rw [acceptable, bound, Option.map_some, report_of_idle still idle]
      rfl
  | @unwritten e x files acceptable free wrote failed =>
      have still : (({ s with files } : State).withLaunch x nodes).clusters[c]? = some cluster := found
      rw [acceptable, free, wrote, Option.map_some, report_of_idle still idle]
      rfl
  | @waiting network files x acceptable free wrote bound launch =>
      rw [acceptable, free, wrote]
      simp only
      split
      · rename_i distinct
        subst launch
        have accepts := ManagedCluster.accepts_of_refusals acceptable
        have some : (List.range nodes).map (cluster.memberAt config (s.freshId cluster.name)) ≠ [] := by
          simpa using accepts.some
        have servers : ∀ m ∈ (List.range nodes).map (cluster.memberAt config (s.freshId cluster.name)),
            m.client = false := by simp [ManagedCluster.memberAt]
        have held : ((List.range nodes).map (cluster.memberAt config
            (s.freshId cluster.name))).filterMap Member.address =
              (List.range nodes).map cluster.addressAt := by
          rw [List.filterMap_map]
          exact congrFun List.filterMap_eq_map _
        rw [awaitMembers_report reached.isAttached found some distinct servers held bound]
        simp
      · rename_i shared
        cases ended : (awaitMembers s.launches.length ({ s with network, files }.withRunning c
            (x.seated (s.now + waitTime cluster.joinDelay)) nodes)).finish with
        | none => rfl
        | some y =>
            obtain ⟨ok, -⟩ := awaitMembers_via ended
            obtain ⟨result, elapsed, t⟩ := y
            cases ok
            exact absurd (ids_nodup_of_ok reached found (course.trans ended)) shared

/-- A start that nothing hinders succeeds when its members have ids of their own. -/
theorem startCluster_of_unhindered (reached : s.IsReachable) (found : s.clusters[c]? = some cluster)
    (distinct : (((List.range nodes).map
      (cluster.memberAt config (s.freshId cluster.name))).map Member.id).Nodup)
    (free : (cluster.hindrances config nodes (s.freshId cluster.name) s.network s.files).findSome? id =
      none) : ∃ elapsed t, (startCluster c config nodes s).finish = some ⟨.ok (), elapsed, t⟩ := by
  simp only [ManagedCluster.hindrances, List.findSome?_append, Option.or_eq_none_iff,
    List.findSome?_cons, List.findSome?_nil] at free
  obtain ⟨acceptable, rest⟩ := free
  have idle := (ManagedCluster.accepts_of_refusals acceptable).idle
  have told : (startCluster c config nodes s).finish.map (report c) = _ :=
    startCluster_report reached found idle
  cases bound : ((List.range nodes).map cluster.addressAt).find? s.network.isBound with
  | some a => simp [bound] at rest
  | none =>
      cases wrote : cluster.writeConfigs config
          ((List.range nodes).map (cluster.memberAt config (s.freshId cluster.name))) s.files with
      | mk files result =>
          cases result with
          | error e => simp [bound, wrote] at rest
          | ok _ =>
              simp only [ManagedCluster.firstStart, acceptable, bound, wrote, if_pos distinct] at told
              obtain ⟨⟨result, elapsed, t⟩, ended, same⟩ := Option.map_eq_some_iff.mp told
              have ok : result = .ok () := congrArg Report.result same
              exact ⟨elapsed, t, ok ▸ ended⟩

end State

end ClusterHarness.InProcess
