import ClusterHarness.Proofs.InProcess.StartCall
import ClusterHarness.Proofs.InProcess.Tasks

/-! # A start that is given up

What a start call has done by the time its caller gives it up, and what a stop takes back of it. A stop
takes back all that belongs to the launch that runs, so nothing remains of a start that waits for its
members. While the configurations are being written the addresses are bound already and the launch does
not run yet. Nothing takes them back then, and no later start of the cluster gets them.
-/

namespace ClusterHarness.InProcess

open Cluster

/-- Whether a move belongs to the start call of a launch, or neither starts nor stops a cluster. -/
def Move.isOfStart (l : LaunchId) : Move → Bool
  | .bind k | .render k | .install k => k = l
  | m => m.isAside

theorem Move.isOfStart_cases {l : LaunchId} {m : Move} (own : m.isOfStart l = true) :
    m.isAside = true ∨ m = .bind l ∨ m = .render l ∨ m = .install l := by
  cases m with
  | bind | render | install =>
      cases of_decide_eq_true own
      simp
  | _ => exact .inl own

theorem ManagedCluster.stopped_eq {cluster : ManagedCluster} (idle : cluster.running = none) :
    { cluster with running := none } = cluster := by
  rw [← idle]

namespace StartPhase

/-- Whether a start call has bound the addresses by now. -/
def hasBound : StartPhase → Bool
  | .rendering _ | .waiting | .live => true
  | _ => false

/-- Whether the launch runs by now. -/
def hasInstalled : StartPhase → Bool
  | .waiting | .live => true
  | _ => false

theorem hasBound_of_hasInstalled {phase : StartPhase} (installed : phase.hasInstalled = true) :
    phase.hasBound = true := by
  cases phase with
  | waiting | live => rfl
  | _ => cases installed

end StartPhase

/-- What a start call that has come to a phase has changed of a network and of a cluster. The launch
itself may be in another phase, when the call has been given up. -/
structure Underway (network : Network LaunchId) (c : ClusterId) (cluster : ManagedCluster)
    (addresses : List String) (l : LaunchId) (phase : StartPhase) (x : Launch) (t : State) : Prop where
  found : t.launches[l]? = some x
  owner : x.cluster = c
  held : x.addresses = addresses
  cluster : t.clusters[c]? =
    some { cluster with running := if phase.hasInstalled then some l else none }
  free : phase.hasBound = false → t.network = network
  bound : phase.hasBound = true → network.bindAll addresses l = .ok t.network
  begun : phase.hasInstalled = true → ∀ seat ∈ x.seats, seat.stage ≠ .planned

namespace Underway

variable {network : Network LaunchId} {c : ClusterId} {cluster : ManagedCluster}
  {addresses : List String} {l : LaunchId} {phase : StartPhase} {x : Launch} {s t : State}

/-! ## The call goes on -/

theorem accept {config : Config.Node} {nodes : Nat} (found : s.clusters[c]? = some cluster)
    (h : s.accept c config nodes = .ok (l, t)) :
    cluster.Accepts config nodes ∧
      ∃ x, Underway s.network c cluster ((List.range nodes).map cluster.addressAt) l x.phase x t := by
  cases plan : cluster.plan config nodes (s.freshId cluster.name) with
  | error e =>
      rw [State.accept_error found plan] at h
      cases h
  | ok members =>
      have accepts := ManagedCluster.accepts_of_plan plan
      rw [accepts.plan] at plan
      cases plan
      rw [State.accept_ok found accepts.plan] at h
      cases h
      refine ⟨accepts, _, State.withLaunch_last, rfl, Launch.addresses_planned, ?_, fun _ => rfl,
        nofun, nofun⟩
      exact found.trans (congrArg some (ManagedCluster.stopped_eq accepts.idle).symm)

/-- The caller sees that all members are there. -/
theorem live (u : Underway network c cluster addresses l .waiting x t) :
    Underway network c cluster addresses l .live x t :=
  ⟨u.found, u.owner, u.held, u.cluster, u.free, u.bound, u.begun⟩

theorem beside (u : Underway network c cluster addresses l phase x s) (beside : Beside s t) :
    ∃ y, x.Kept y ∧ Underway network c cluster addresses l phase y t := by
  obtain ⟨y, found, kept⟩ := beside.launches u.found
  refine ⟨y, kept, found, kept.cluster.trans u.owner, kept.addresses.trans u.held,
    beside.clusters u.cluster, ?_, ?_, ?_⟩
  · intro free
    exact beside.network.trans (u.free free)
  · intro bound
    rw [beside.network]
    exact u.bound bound
  · intro installed
    exact kept.begun (u.begun installed)

theorem aside (u : Underway network c cluster addresses l x.phase x s) (aside : Beside s t) :
    ∃ y, Underway network c cluster addresses l y.phase y t := by
  obtain ⟨y, kept, u⟩ := u.beside aside
  rcases kept.phase with same | ⟨waiting, live⟩
  · rw [← same] at u
    exact ⟨y, u⟩
  · rw [waiting] at u
    exact ⟨y, live ▸ u.live⟩

/-- The call goes on, and its launch is not installed. -/
theorem setPhase (u : Underway network c cluster addresses l x.phase x s)
    (before : x.phase.hasInstalled = false) (after : phase.hasInstalled = false)
    (launches : t.launches = s.launches.modify l fun x => { x with phase })
    (clusters : t.clusters = s.clusters) (free : phase.hasBound = false → t.network = network)
    (bound : phase.hasBound = true → network.bindAll addresses l = .ok t.network) :
    ∃ y, Underway network c cluster addresses l y.phase y t := by
  refine ⟨{ x with phase }, ?_, u.owner, u.held, ?_, free, bound, ?_⟩
  · simp [launches, u.found]
  · rw [clusters, u.cluster, before, after]
  · intro installed
    cases after.symm.trans installed

theorem bind (u : Underway network c cluster addresses l x.phase x s) (h : s.bind? l = some t) :
    ∃ y, Underway network c cluster addresses l y.phase y t := by
  cases Effect.of_bind? h with
  | bound found phase idle free =>
      cases u.found.symm.trans found
      rw [u.held, u.free (phase ▸ rfl)] at free
      exact u.setPhase (phase ▸ rfl) rfl rfl rfl nofun fun _ => free
  | refused found phase =>
      cases u.found.symm.trans found
      exact u.setPhase (phase ▸ rfl) rfl rfl rfl (fun _ => u.free (phase ▸ rfl)) nofun

theorem render (u : Underway network c cluster addresses l x.phase x s) (h : s.render? l = some t) :
    ∃ y, Underway network c cluster addresses l y.phase y t := by
  cases Effect.of_render? h with
  | rendered found phase =>
      cases u.found.symm.trans found
      exact u.setPhase (phase ▸ rfl) rfl rfl rfl nofun fun _ => u.bound (phase ▸ rfl)
  | unrendered found phase =>
      cases u.found.symm.trans found
      -- The call itself gives back what it has bound when it cannot write.
      have released := u.held ▸ Network.unbindAll_bindAll (u.bound (phase ▸ rfl))
      exact u.setPhase (phase ▸ rfl) rfl rfl rfl (fun _ => released) nofun

theorem install (u : Underway network c cluster addresses l x.phase x s)
    (h : s.install? l = some t) : ∃ y, Underway network c cluster addresses l y.phase y t := by
  cases Effect.of_install? h with
  | @installed _ _ _ settings found phase owner =>
      cases u.found.symm.trans found
      cases u.owner
      refine ⟨x.seated (s.now + waitTime settings.joinDelay), ?_, rfl,
        (x.addresses_seated _).trans u.held, ?_, ?_, ?_, ?_⟩
      · simp [State.updateCluster, State.updateLaunch, u.found]
      · simp [State.updateCluster, State.updateLaunch, u.cluster, Launch.seated,
          StartPhase.hasInstalled]
      · intro free
        cases free
      · intro _
        exact u.bound (phase ▸ rfl)
      · intro _ seat member planned
        obtain ⟨before, -, rfl⟩ := List.mem_map.mp member
        cases planned

theorem step (u : Underway network c cluster addresses l x.phase x s) {m : Move}
    (own : m.isOfStart l = true) (h : s.after? m = some t) :
    ∃ y, Underway network c cluster addresses l y.phase y t := by
  rcases Move.isOfStart_cases own with aside | rfl | rfl | rfl
  · exact u.aside (.step aside h)
  · exact u.bind h
  · exact u.render h
  · exact u.install h

theorem afterAll (u : Underway network c cluster addresses l x.phase x s) {moves : List Move}
    (own : ∀ m ∈ moves, m.isOfStart l = true) (h : s.afterAll? moves = some t) :
    ∃ y, Underway network c cluster addresses l y.phase y t := by
  refine State.afterAll?_invariant
    (P := fun t => ∃ y, Underway network c cluster addresses l y.phase y t)
    (fun m => m.isOfStart l = true) ⟨x, u⟩ ?_ own h
  rintro v w m ⟨y, u⟩ own last
  exact u.step own last

/-! ## The call is given up, and the cluster is stopped -/

theorem abandon (u : Underway network c cluster addresses l phase x s) (h : s.abandon? l = some t) :
    ∃ y, Underway network c cluster addresses l phase y t := by
  cases Effect.of_abandon? h with
  | abandoned found =>
      refine ⟨{ x with phase := .abandoned }, ?_, u.owner, u.held, u.cluster, u.free, u.bound, u.begun⟩
      simp [State.setPhase, State.updateLaunch, u.found]

theorem running? (u : Underway network c cluster addresses l phase x s) :
    s.running? c = if phase.hasInstalled then some l else none := by
  simp [State.running?, u.cluster]

/-- A stop of what runs gives back the addresses, however many members are there. -/
theorem stop (u : Underway network c cluster addresses l phase x s) (idle : cluster.running = none)
    (installed : phase.hasInstalled = true) :
    ∃ t, (State.stopCluster c s).finish = some ⟨.ok (), 0, t⟩ ∧ t.network = network ∧
      t.clusters[c]? = some cluster := by
  have running := u.running?.trans (if_pos installed)
  obtain ⟨t, stopped, led⟩ := State.stopCluster_of_running running u.found (u.begun installed)
  have beside := led.beside
  refine ⟨t, stopped, ?_, ?_⟩
  · rw [beside.network, u.held]
    exact Network.unbindAll_bindAll (u.bound (StartPhase.hasBound_of_hasInstalled installed))
  · apply beside.clusters
    simp [State.halted, State.updateLaunch, State.updateCluster, u.cluster,
      ManagedCluster.stopped_eq idle]

end Underway

/-- Nothing runs in a cluster of some name. -/
structure State.IsIdle (s : State) (c : ClusterId) (name : String) : Prop where
  config : s.clusterConfig c = none
  addresses : s.discoveryAddresses c = []
  topology : s.topology c = .error (.notStarted name)

theorem State.isIdle_of_found {s : State} {c : ClusterId} {cluster : ManagedCluster}
    (found : s.clusters[c]? = some cluster) (idle : cluster.running = none) :
    s.IsIdle c cluster.name where
  config := by simp [clusterConfig, running?, found, idle]
  addresses := by simp [discoveryAddresses, running?, found, idle]
  topology := by simp [topology, found, idle]

section

variable {s : State} {c : ClusterId} {cluster : ManagedCluster} {config : Config.Node} {nodes : Nat}
  (found : s.clusters[c]? = some cluster) (accepts : cluster.Accepts config nodes)

include found accepts

theorem State.bind?_of_room {network : Network LaunchId}
    (room : s.network.bindAll ((List.range nodes).map cluster.addressAt) s.launches.length =
      .ok network) :
    ∃ l t u, s.accept c config nodes = .ok (l, t) ∧ t.bind? l = some u ∧
      u.launches[l]?.map Launch.phase = some (.rendering 0) := by
  rw [← Launch.addresses_planned] at room
  refine ⟨_, _, _, accept_ok found accepts.plan, bind?_free found accepts.idle rfl rfl room, ?_⟩
  rw [withLaunch_last]
  rfl

/-- A start fails at the first address when some launch of the cluster has all of them. -/
theorem State.startCluster_of_bound {network : Network LaunchId} {l : LaunchId}
    (bound : network.bindAll ((List.range nodes).map cluster.addressAt) l = .ok s.network) :
    ∃ t, (startCluster c config nodes s).finish =
      some ⟨.error (.startupFailed cluster.name (.addressTaken (cluster.addressAt 0))), 0, t⟩ := by
  obtain ⟨more, rfl⟩ := Nat.exists_eq_succ_of_ne_zero accepts.some
  rw [List.range_succ_eq_map, List.map_cons] at bound
  have taken := Network.bindAll_again bound s.launches.length
  rw [← List.map_cons, ← List.range_succ_eq_map, ← Launch.addresses_planned] at taken
  obtain ⟨x, -, course⟩ := startCluster_of_taken found accepts.idle accepts.plan taken
  rw [course]
  exact ⟨_, rfl⟩

end

open State in
/-- The start of a cluster is given up, and after some time the cluster is stopped. If the call was
waiting for the members by then, everything is as it was before, and the same start finds its addresses
free. But if it was still writing configurations, the stop finds nothing to do, all the addresses stay
bound, and the same start fails for want of the first. -/
theorem stop_after_abandoned_start {s begun t u v : State} {c : ClusterId} {cluster : ManagedCluster}
    {config : Config.Node} {nodes : Nat} {l : LaunchId} {x : Launch} {before after : List Move}
    (found : s.clusters[c]? = some cluster) (accepted : s.accept c config nodes = .ok (l, begun))
    (own : ∀ m ∈ before, m.isOfStart l = true) (went : begun.afterAll? before = some t)
    (there : t.launches[l]? = some x) (abandoned : t.abandon? l = some u)
    (aside : ∀ m ∈ after, m.isAside = true) (later : u.afterAll? after = some v) :
    (x.phase = .waiting →
      ∃ w, (stopCluster c v).finish = some ⟨.ok (), 0, w⟩ ∧ w.network = s.network ∧
        w.IsIdle c cluster.name ∧
          ∃ k again bound, w.accept c config nodes = .ok (k, again) ∧ again.bind? k = some bound ∧
            bound.launches[k]?.map Launch.phase = some (.rendering 0)) ∧
    (∀ written, x.phase = .rendering written →
      stopCluster c v = .now (.ok ()) v ∧ v.IsIdle c cluster.name ∧
        v.network.bindings =
          s.network.bindings ++ (List.range nodes).map (fun i => (cluster.addressAt i, l)) ∧
            ∃ w, (startCluster c config nodes v).finish =
              some ⟨.error (.startupFailed cluster.name (.addressTaken (cluster.addressAt 0))), 0, w⟩) := by
  obtain ⟨accepts, y, start⟩ := Underway.accept found accepted
  obtain ⟨y, reached⟩ := start.afterAll own went
  cases there.symm.trans reached.found
  obtain ⟨y, given⟩ := reached.abandon abandoned
  obtain ⟨y, -, left⟩ := given.beside (.afterAll aside later)
  constructor
  · intro waiting
    rw [waiting] at left
    obtain ⟨w, stopped, network, there⟩ := left.stop accepts.idle rfl
    obtain ⟨network', room⟩ := Network.bindAll_of_bindAll (left.bound rfl) w.launches.length
    refine ⟨w, stopped, network, isIdle_of_found there accepts.idle, ?_⟩
    exact bind?_of_room there accepts (network.symm ▸ room)
  · intro written rendering
    rw [rendering] at left
    have idle : v.running? c = none := left.running?
    have there : v.clusters[c]? = some cluster :=
      left.cluster.trans (congrArg some (ManagedCluster.stopped_eq accepts.idle))
    have bound := left.bound rfl
    obtain ⟨-, network⟩ := Network.bindAll_ok bound
    refine ⟨stopCluster_of_idle idle, isIdle_of_found there accepts.idle, ?_,
      startCluster_of_bound there accepts bound⟩
    rw [network, List.map_map]
    rfl

/-- A cluster that writes the configurations of its members. -/
def writingCluster : ManagedCluster := { name := "ignite", rendering := some ("conf", .json) }

open State in
theorem stop_after_abandoned_start_writing :
    ∃ (l : LaunchId) (begun t u : State),
      State.accept { clusters := [writingCluster] } 0 {} 2 = .ok (l, begun) ∧
        begun.bind? l = some t ∧ t.abandon? l = some u ∧ stopCluster 0 u = .now (.ok ()) u ∧
          u.network.bindings = [("127.0.0.1:47500", l), ("127.0.0.1:47501", l)] ∧
            ∃ w, (startCluster 0 {} 2 u).finish =
              some ⟨.error (.startupFailed "ignite" (.addressTaken "127.0.0.1:47500")), 0, w⟩ := by
  let s : State := { clusters := [writingCluster] }
  have found : s.clusters[0]? = some writingCluster := rfl
  have accepts : writingCluster.Accepts {} 2 := ⟨rfl, by decide, rfl, rfl, by decide⟩
  have room : s.network.bindAll ((List.range 2).map writingCluster.addressAt) s.launches.length =
      .ok ⟨[("127.0.0.1:47500", 0), ("127.0.0.1:47501", 0)]⟩ := by decide +kernel
  obtain ⟨l, begun, t, accepted, bound, phase⟩ := bind?_of_room found accepts room
  obtain ⟨x, there, rendering⟩ := Option.map_eq_some_iff.mp phase
  have went : begun.afterAll? [.bind l] = some t := by simpa [afterAll?, after?] using bound
  have abandoned : t.abandon? l = some (t.setPhase l .abandoned) := by
    simp [abandon?, there, rendering]
  have nothing : ∀ m ∈ ([] : List Move), m.isAside = true := by simp
  have left := stop_after_abandoned_start found accepted (by simp [Move.isOfStart]) went there abandoned
    nothing rfl
  have first : writingCluster.addressAt 0 = "127.0.0.1:47500" := by decide +kernel
  have second : writingCluster.addressAt 1 = "127.0.0.1:47501" := by decide +kernel
  obtain ⟨stopped, -, bindings, failed⟩ := left.2 0 rendering
  rw [first] at failed
  refine ⟨l, begun, t, _, accepted, bound, abandoned, stopped, ?_, failed⟩
  rw [bindings, ← first, ← second]
  rfl

end ClusterHarness.InProcess
