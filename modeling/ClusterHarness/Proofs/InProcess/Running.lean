import ClusterHarness.Proofs.InProcess.Membership
import ClusterHarness.Proofs.InProcess.StartCall
import ClusterHarness.Proofs.InProcess.Tasks

/-! # While a launch runs

What is known of a state in which a launch runs that a start call has installed, from the wait for its
members on to the stop. All of it is said of the state in front of the call, since that is what the
stop brings back.
-/

namespace ClusterHarness.InProcess

open Cluster

/-- The launch that comes next in `s` runs in `t`, and has bound its addresses on top of all others. -/
structure Running (s : State) (c : ClusterId) (x : Launch) (t : State) : Prop where
  owner : x.cluster = c
  clusters : t.clusters = s.clusters.modify c fun c => { c with running := some s.launches.length }
  network : s.network.bindAll x.addresses s.launches.length = .ok t.network
  launch : t.launches[s.launches.length]? = some x

theorem State.IsAttached.leavesAlone {s t : State} (attached : s.IsAttached)
    (runs : t.runs.map Run.launch = s.runs.map Run.launch) (r : RunId) :
    t.LeavesAlone s.launches.length r := by
  intro x found same
  have there : x.launch ∈ t.runs.map Run.launch :=
    List.mem_map_of_mem (List.mem_of_getElem? found)
  rw [runs, same] at there
  exact absurd (attached _ there) (Nat.lt_irrefl _)

namespace Running

variable {s t u : State} {c : ClusterId} {cluster : ManagedCluster} {x : Launch}

theorem went (running : Running s c x t) {f : Launch → Launch}
    (went : Went s.launches.length f t u) (owner : (f x).cluster = x.cluster)
    (addresses : (f x).addresses = x.addresses) : Running s c (f x) u where
  owner := owner.trans running.owner
  clusters := by rw [went.rest, running.clusters]
  network := by rw [addresses, running.network, went.rest]
  launch := went.found running.launch

theorem setPhase (running : Running s c x t) (phase : StartPhase) :
    Running s c (x.inPhase phase) (t.setPhase s.launches.length phase) where
  owner := running.owner
  clusters := running.clusters
  network := running.network
  launch := by simp [State.setPhase, State.updateLaunch, running.launch, Launch.inPhase]

variable (found : s.clusters[c]? = some cluster)

include found

theorem running? (running : Running s c x t) : t.running? c = some s.launches.length := by
  simp [State.running?, running.clusters, found]

theorem topology_eq (running : Running s c x t) : t.topology c = .ok x.topology.snapshot := by
  simp [State.topology, running.clusters, found, running.launch]

theorem clusterConfig_eq (running : Running s c x t) : t.clusterConfig c = some x.topology.config := by
  simp [State.clusterConfig, running.running? found, running.launch]

theorem discoveryAddresses_eq (running : Running s c x t) : t.discoveryAddresses c = x.addresses := by
  simp [State.discoveryAddresses, running.running? found, running.launch]

end Running

/-! ## The wait for the members -/

/-- A launch whose members are all due at a time, and of whose topology nothing is known but that. -/
structure Launch.IsDue (x : Launch) (c : ClusterId) (time : Nat) (config : Config.Node)
    (members : List Member) : Prop where
  owner : x.cluster = c
  told : x.shutdown = false
  phase : x.phase = .waiting
  seats : x.seats = Launch.gathering time [] members
  shows : x.topology.Shows config [] 0

/-- A launch whose members have all joined. -/
structure Launch.IsGathered (x : Launch) (c : ClusterId) (members : List Member) : Prop where
  owner : x.cluster = c
  told : x.shutdown = false
  seats : ∃ time, x.seats = Launch.gathering time members []

namespace Launch.IsGathered

variable {x : Launch} {c : ClusterId} {members : List Member}

theorem rests (gathered : x.IsGathered c members) (now : Nat) : x.Rests now := by
  obtain ⟨time, seats⟩ := gathered.seats
  intro seat there
  rw [seats, Launch.gathering, List.map_nil, List.append_nil] at there
  obtain ⟨m, -, rfl⟩ := List.mem_map.mp there
  simp [Seat.Rests, gathered.told]

theorem addresses (gathered : x.IsGathered c members) :
    x.addresses = members.filterMap Member.address := by
  obtain ⟨time, seats⟩ := gathered.seats
  simp [Launch.addresses, seats, Launch.gathering, List.filterMap_map]

theorem begun (gathered : x.IsGathered c members) : ∀ seat ∈ x.seats, seat.stage ≠ .planned := by
  obtain ⟨time, seats⟩ := gathered.seats
  simp [seats, Launch.gathering]

end Launch.IsGathered

namespace Launch.IsDue

variable {x : Launch} {c : ClusterId} {time : Nat} {config : Config.Node} {members : List Member}

theorem planned (c : ClusterId) (cluster : ManagedCluster) (config : Config.Node)
    (members : List Member) (time : Nat) :
    ((Launch.planned c cluster config members).seated time).IsDue c time config members where
  owner := rfl
  told := rfl
  phase := rfl
  seats := by simp [Launch.planned, Launch.seated, Launch.gathering]
  shows := ⟨rfl, .refl _, rfl, rfl⟩

theorem turn (due : x.IsDue c time config members) (distinct : (members.map Member.id).Nodup) :
    (x.turn time).IsGathered c members ∧ (x.turn time).topology.Shows config members members.length ∧
      (x.turn time).phase = .waiting := by
  obtain ⟨topology, turned, shows⟩ := Launch.turn_gathering due.told due.seats due.shows distinct
  rw [turned]
  exact ⟨⟨due.owner, due.told, ⟨time, rfl⟩⟩, shows, due.phase⟩

theorem addresses (due : x.IsDue c time config members) :
    x.addresses = members.filterMap Member.address := by
  simp [Launch.addresses, due.seats, Launch.gathering, List.filterMap_map]

theorem begun (due : x.IsDue c time config members) : ∀ seat ∈ x.seats, seat.stage ≠ .planned := by
  simp [due.seats, Launch.gathering]

theorem mem_dues (due : x.IsDue c time config members) (some : members ≠ []) : time ∈ x.dues := by
  obtain ⟨m, rest, rfl⟩ := List.exists_cons_of_ne_nil some
  simp [Launch.dues, due.seats, Launch.gathering, State.dueTime?]

end Launch.IsDue

namespace State

variable {s t : State} {c : ClusterId} {l : LaunchId} {x : Launch} {time : Nat}
  {config : Config.Node} {members : List Member}

theorem isLive_eq (found : s.launches[l]? = some x) (waiting : x.phase = .waiting) :
    isLive l s = decide (x.seats.length ≤ x.topology.announced.servers) := by
  by_cases enough : x.seats.length ≤ x.topology.announced.servers <;>
    simp [isLive, goLive?, found, waiting, enough, guard]

theorem isLive_of_due (found : s.launches[l]? = some x) (due : x.IsDue c time config members)
    (some : members ≠ []) : isLive l s = false := by
  rw [isLive_eq found due.phase, due.shows.servers, due.seats, Launch.gathering]
  simpa using some

theorem isLive_of_gathered {version : Nat} (found : s.launches[l]? = some x)
    (waiting : x.phase = .waiting) (gathered : x.IsGathered c members)
    (shows : x.topology.Shows config members version) (servers : ∀ m ∈ members, m.client = false) :
    isLive l s = true := by
  obtain ⟨time, seats⟩ := gathered.seats
  have all : members.countP (fun m => !m.client) = members.length :=
    List.countP_eq_length.mpr fun m member => by rw [servers m member]; rfl
  rw [isLive_eq found waiting, shows.servers, seats, all]
  simp [Launch.gathering]

theorem goLive?_of_isLive (live : isLive l s = true) : s.goLive? l = some (s.setPhase l .live) := by
  obtain ⟨t, step⟩ := Option.isSome_iff_exists.mp live
  have taken := step
  simp only [goLive?, Option.bind_eq_bind, Option.bind_eq_some_iff] at taken
  obtain ⟨x, -, -, -, last⟩ := taken
  rw [step]
  exact last.symm

theorem abandon?_of_waiting (found : s.launches[l]? = some x) (waiting : x.phase = .waiting) :
    s.abandon? l = some (s.setPhase l .abandoned) := by
  simp [abandon?, found, waiting, guard]

end State

/-- Everything but the clock, the launches and the runs is as it was, and no run is attached anew. -/
structure Later (s t : State) : Prop where
  rest : t = { s with now := t.now, launches := t.launches, runs := t.runs }
  attached : t.runs.map Run.launch = s.runs.map Run.launch

theorem Later.trans {s t u : State} (first : Later s t) (second : Later t u) : Later s u where
  rest := by rw [second.rest, first.rest]
  attached := second.attached.trans first.attached

theorem Later.applications {s t : State} (later : Later s t) : t.applications = s.applications := by
  rw [later.rest]

theorem Later.freshId {s t : State} (later : Later s t) (name : String) (index : Nat) :
    t.freshId name index = s.freshId name index := by
  rw [later.rest]
  rfl

theorem Went.later {l : LaunchId} {f : Launch → Launch} {s t : State} (went : Went l f s t) :
    Later s t := ⟨went.rest, went.attached⟩

theorem Later.setPhase {s t : State} (later : Later s t) (l : LaunchId) (phase : StartPhase) :
    Later s (t.setPhase l phase) :=
  ⟨congrArg (State.setPhase · l phase) later.rest, later.attached⟩

namespace Running

variable {s t : State} {c : ClusterId} {x : Launch} {time : Nat} {config : Config.Node}
  {members : List Member}

/-- The wait ends when the time of the members has come. -/
theorem awaitMembers_finish (running : Running s c x t)
    (quiet : ∀ r, t.LeavesAlone s.launches.length r) (due : x.IsDue c time config members)
    (some : members ≠ []) (distinct : (members.map Member.id).Nodup)
    (servers : ∀ m ∈ members, m.client = false) (early : t.now ≤ time) :
    (State.awaitMembers s.launches.length t).late = true ∧
    ∃ y u, (State.awaitMembers s.launches.length t).finish = .some ⟨.ok (), time - t.now, u⟩ ∧
      Running s c y u ∧ y.IsGathered c members ∧ y.topology.Shows config members members.length ∧
      Later t u := by
  have before (u : State) (found : u.launches[s.launches.length]? = .some x) :
      State.isLive s.launches.length u = false := State.isLive_of_due found due some
  obtain ⟨gathered, shows, waiting⟩ := due.turn distinct
  have owner := gathered.owner.trans due.owner.symm
  have addresses := gathered.addresses.trans due.addresses.symm
  have after (u : State) (found : u.launches[s.launches.length]? = .some (x.turn time)) :
      State.isLive s.launches.length u = true :=
    State.isLive_of_gathered found waiting gathered shows servers
  have still (n : Nat) (h : n < time) : x.turn n = x := Launch.turn_waiting due.told due.seats h
  have enough : t.ahead.length < t.dueTimes.length + 1 := Nat.lt_succ_of_le (List.length_filter_le ..)
  obtain ⟨u, waited, went, now⟩ := State.waitUntil_went (due.mem_dues some) still before after quiet
    running.launch early enough
  have awaited : t.await (State.isLive s.launches.length) = .some u := waited
  have live := State.goLive?_of_isLive (after u (went.found running.launch))
  refine ⟨?_, (x.turn time).inPhase .live, u.setPhase s.launches.length .live, ?_, ?_, ?_, shows, ?_⟩
  · simp [State.awaitMembers, State.waitFor, before t running.launch]
  · simp [State.awaitMembers, State.waitFor, before t running.launch, awaited, live, now]
  · exact (running.went went owner addresses).setPhase .live
  · exact ⟨gathered.owner, gathered.told, gathered.seats⟩
  · exact went.later.setPhase _ _

/-- A wait that is given up before the members are due leaves them due. -/
theorem awaitMembers_abandoned (running : Running s c x t)
    (quiet : ∀ r, t.LeavesAlone s.launches.length r) (due : x.IsDue c time config members)
    (some : members ≠ []) {limit : Nat} (positive : limit ≠ 0) (early : t.now + limit ≤ time) :
    Running s c (x.inPhase .abandoned) ((State.awaitMembers s.launches.length t).abandoned limit) ∧
      Later t ((State.awaitMembers s.launches.length t).abandoned limit) := by
  have before : State.isLive s.launches.length t = false := State.isLive_of_due running.launch due some
  have still (n : Nat) (h : n < t.now + limit) : x.turn n = x :=
    Launch.turn_waiting due.told due.seats (by omega)
  have went : Went s.launches.length id t (t.pass limit) := by
    rw [State.pass, if_neg positive]
    exact (State.passUntil_went still quiet running.launch
      (Nat.lt_add_of_pos_right (Nat.pos_of_ne_zero positive))).1
  have given := State.abandon?_of_waiting (went.found running.launch) due.phase
  have left : (State.awaitMembers s.launches.length t).abandoned limit =
      (t.pass limit).setPhase s.launches.length .abandoned := by
    simp [State.awaitMembers, State.waitFor, before, given]
  rw [left]
  exact ⟨(running.went went rfl rfl).setPhase .abandoned, went.later.setPhase _ _⟩

end Running

/-! ## The stop -/

namespace Running

variable {s t : State} {c : ClusterId} {cluster : ManagedCluster} {x : Launch}

/-- A stop takes no time, however far the members have come, and gives back all that was bound. -/
theorem stopCluster_finish (running : Running s c x t) (found : s.clusters[c]? = some cluster)
    (idle : cluster.running = none) (begun : ∀ seat ∈ x.seats, seat.stage ≠ .planned) :
    ∃ u, (State.stopCluster c t).finish = some ⟨.ok (), 0, u⟩ ∧ u.network = s.network ∧
      u.clusters = s.clusters ∧ u.applications = t.applications := by
  obtain ⟨u, stopped, led⟩ :=
    State.stopCluster_of_running (running.running? found) running.launch begun
  have cleared : t.clusters.modify c (fun c => { c with running := none }) = s.clusters := by
    rw [running.clusters, List.modify_modify_eq]
    exact (modify_congr (g := id) found (by simp [← idle])).trans (List.modify_id _ _)
  refine ⟨u, stopped, ?_, ?_, ?_⟩
  · rw [led.rest]
    exact Network.unbindAll_bindAll running.network
  · rw [led.rest]
    exact cleared
  · rw [led.rest]
    rfl

end Running

end ClusterHarness.InProcess
