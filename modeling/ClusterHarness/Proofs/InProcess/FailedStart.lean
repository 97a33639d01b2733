import ClusterHarness.Proofs.InProcess.Writing

/-! # A start that fails

What can stand in the way of a start, in the order in which it counts, and that a start which meets one
of these hindrances leaves everything as it was. Only a start that fails while it writes configurations
leaves something behind: the files that it has written by then.
-/

namespace ClusterHarness.InProcess

open Cluster

namespace ManagedCluster

/-- What is wrong with a request to start a cluster, one check after the other. The call returns every
one of these errors but that for want of room, with which it panics. -/
def refusals (cluster : ManagedCluster) (config : Config.Node) (nodes : Nat) : List (Option Error) :=
  [if cluster.running.isSome then some (.alreadyStarted cluster.name) else none,
   if nodes = 0 then some (.startupFailed cluster.name .noMembers) else none,
   if config.clientMode then some (.startupFailed cluster.name .clientMode) else none,
   match config.validate with
   | .ok _ => none
   | .error violation => some (.invalidConfig violation),
   if mostMembers < nodes then some .capacityOverflow else none,
   ((List.range nodes).find? fun i => UInt16.size ≤ cluster.basePort.toNat + i).map fun i =>
    .startupFailed cluster.name (.noPort i)]

/-- What stands in the way of a start, in the order in which it counts: what is wrong with the request,
the first address of a member that is taken, and the first configuration that cannot be written. -/
def hindrances (cluster : ManagedCluster) (config : Config.Node) (nodes : Nat)
    (freshId : Nat → String) (network : Network LaunchId) (files : Files) : List (Option Error) :=
  let members := (List.range nodes).map (cluster.memberAt config freshId)
  cluster.refusals config nodes ++
    [(((List.range nodes).map cluster.addressAt).find? network.isBound).map fun address =>
      .startupFailed cluster.name (.addressTaken address),
     match (cluster.writeConfigs config members files).2 with
     | .ok _ => none
     | .error e => some e]

variable {c : ManagedCluster} {config : Config.Node} {freshId : Nat → String} {nodes : Nat}

theorem find?_portless :
    ((List.range nodes).find? fun i => UInt16.size ≤ c.basePort.toNat + i) =
      if c.basePort.toNat + nodes ≤ UInt16.size then none
      else some (UInt16.size - c.basePort.toNat) := by
  have port : c.basePort.toNat < UInt16.size := c.basePort.toNat_lt
  split
  · rw [List.find?_range_eq_none]
    intro i less
    simp only [Bool.not_eq_true', decide_eq_false_iff_not]
    omega
  · rw [List.find?_range_eq_some]
    refine ⟨by simp; omega, by simp; omega, fun i less => ?_⟩
    simp only [Bool.not_eq_true', decide_eq_false_iff_not]
    omega

/-- A request is refused for the first thing that is wrong with it. -/
theorem plan_eq_refusal :
    c.plan config nodes freshId =
      match (c.refusals config nodes).findSome? id with
      | some e => .error e
      | none => .ok ((List.range nodes).map (c.memberAt config freshId)) := by
  by_cases running : c.running.isSome = true
  · simp [plan, refusals, running, bind, Except.bind]
  by_cases none : nodes = 0
  · simp [plan, refusals, running, none, bind, Except.bind]
  by_cases client : config.clientMode = true
  · simp [plan, refusals, running, none, client, bind, Except.bind]
  cases valid : config.validate with
  | error violation =>
      simp [plan, refusals, running, none, client, valid, Except.mapError, bind, Except.bind]
  | ok _ =>
      have idle : c.running = .none := by simpa using running
      have server : config.clientMode = false := by simpa using client
      rw [plan_eq idle none server valid, refusals, find?_portless]
      by_cases room : c.basePort.toNat + nodes ≤ UInt16.size
      · have fits : nodes ≤ mostMembers := le_mostMembers room
        simp [idle, none, server, valid, room, fits, members_of_le room]
      by_cases fits : nodes ≤ mostMembers
      · simp [idle, none, server, valid, room, fits, members_of_lt fits (Nat.not_le.mp room)]
      · have countless : mostMembers < nodes := Nat.not_le.mp fits
        simp [idle, none, server, valid, countless, members_of_mostMembers_lt countless]

theorem accepts_of_refusals (h : (c.refusals config nodes).findSome? id = none) :
    c.Accepts config nodes := by
  have plan : c.plan config nodes (fun _ => "") = _ := plan_eq_refusal
  rw [h] at plan
  exact accepts_of_plan plan

end ManagedCluster

/-- The configuration of a member cannot be written, after those of the members before it have been. -/
def ManagedCluster.FailsToWrite (cluster : ManagedCluster) (config : Config.Node) (nodes : Nat)
    (freshId : Nat → String) (files : Files) (e : Error) (left : Files) : Prop :=
  ∃ folder format i between, cluster.rendering = some (folder, format) ∧ i < nodes ∧
    writeAll format folder config ((List.range i).map (cluster.memberAt config freshId)) files =
      (between, .ok ()) ∧
    format.write (config.apply (.consistentId (memberId config freshId i))) folder
      (memberId config freshId i) between = (left, .error e)

theorem map_range_eq_append {α : Type} {f : Nat → α} {n : Nat} {before after : List α} {a : α}
    (h : (List.range n).map f = before ++ a :: after) :
    before.length < n ∧ before = (List.range before.length).map f ∧ a = f before.length := by
  have less : before.length < n := by
    have length := congrArg List.length h
    simp at length
    omega
  refine ⟨less, ?_, ?_⟩
  · have front := congrArg (List.take before.length) h
    rw [List.take_left, ← List.map_take, List.take_range, Nat.min_eq_left (Nat.le_of_lt less)] at front
    exact front.symm
  · have next := congrArg (·[before.length]?) h
    simpa [less] using next.symm

theorem ManagedCluster.failsToWrite {cluster : ManagedCluster} {config : Config.Node} {nodes : Nat}
    {freshId : Nat → String} {files left : Files} {e : Error}
    (h : cluster.writeConfigs config ((List.range nodes).map (cluster.memberAt config freshId)) files =
      (left, .error e)) : cluster.FailsToWrite config nodes freshId files e left := by
  rw [writeConfigs] at h
  split at h
  · cases h
  · rename_i folder format rendering
    obtain ⟨before, m, after, between, split, wrote, failed⟩ := writeAll_eq_error.mp h
    obtain ⟨less, front, rfl⟩ := map_range_eq_append split
    rw [front] at wrote
    exact ⟨folder, format, before.length, between, rendering, less, wrote, failed⟩

/-- Nobody but the caller can tell that a start has failed: all that is left of it is a launch that has
failed as well. -/
structure State.Untouched (s t : State) : Prop where
  network : t.network = s.network
  clusters : t.clusters = s.clusters
  launches : ∀ {l : LaunchId} {x : Launch}, s.launches[l]? = some x → t.launches[l]? = some x
  remains : ∀ {l : LaunchId} {x : Launch}, s.launches.length ≤ l → t.launches[l]? = some x →
    ∃ e, x.phase = .failed e
  applications : t.applications = s.applications
  runs : t.runs = s.runs
  now : t.now = s.now

namespace State

variable {s : State} {c : ClusterId} {cluster : ManagedCluster} {config : Config.Node} {nodes : Nat}

theorem Untouched.refl (s : State) : s.Untouched s where
  network := rfl
  clusters := rfl
  launches := id
  remains late found := absurd (List.getElem?_eq_some_iff.mp found).1 (Nat.not_lt.mpr late)
  applications := rfl
  runs := rfl
  now := rfl

theorem Untouched.withLaunch {x : Launch} {e : Error} {files : Files} (failed : x.phase = .failed e) :
    s.Untouched ({ s with files }.withLaunch x nodes) where
  network := rfl
  clusters := rfl
  launches found := (List.getElem?_append_left (List.getElem?_eq_some_iff.mp found).1).trans found
  remains late found := by
    rcases of_getElem?_concat found with before | ⟨-, rfl⟩
    · exact absurd (List.getElem?_eq_some_iff.mp before).1 (Nat.not_lt.mpr late)
    · exact ⟨e, failed⟩
  applications := rfl
  runs := rfl
  now := rfl

/-- A wait for the members never ends in an error. -/
theorem awaitMembers_ok {l : LaunchId} {x : Finish State Unit}
    (h : (awaitMembers l s).finish = some x) : x.result = .ok () := by
  simp only [awaitMembers, waitFor] at h
  split at h
  · cases h
    rfl
  · simp only [Option.map_eq_some_iff] at h
    obtain ⟨_, ⟨t, -, rfl⟩, rfl⟩ := h
    rfl

/-- How a start goes that is left alone: it is refused, it finds an address taken, it cannot write a
configuration, or it waits for its members. -/
inductive Outcome (s : State) (c : ClusterId) (cluster : ManagedCluster) (config : Config.Node)
    (nodes : Nat) : Option (Finish State Unit) → Prop where
  | refused {e} (refusal : (cluster.refusals config nodes).findSome? id = some e) :
      Outcome s c cluster config nodes (some ⟨.error e, 0, s⟩)
  | taken {a x} (acceptable : (cluster.refusals config nodes).findSome? id = none)
      (bound : ((List.range nodes).map cluster.addressAt).find? s.network.isBound = some a)
      (failed : x.phase = .failed (.startupFailed cluster.name (.addressTaken a))) :
      Outcome s c cluster config nodes
        (some ⟨.error (.startupFailed cluster.name (.addressTaken a)), 0, s.withLaunch x nodes⟩)
  | unwritten {e x files} (acceptable : (cluster.refusals config nodes).findSome? id = none)
      (free : ((List.range nodes).map cluster.addressAt).find? s.network.isBound = none)
      (wrote : cluster.writeConfigs config
        ((List.range nodes).map (cluster.memberAt config (s.freshId cluster.name))) s.files =
          (files, .error e))
      (failed : x.phase = .failed e) :
      Outcome s c cluster config nodes (some ⟨.error e, 0, { s with files }.withLaunch x nodes⟩)
  | waiting {network files} {x : Launch}
      (acceptable : (cluster.refusals config nodes).findSome? id = none)
      (free : ((List.range nodes).map cluster.addressAt).find? s.network.isBound = none)
      (wrote : cluster.writeConfigs config
        ((List.range nodes).map (cluster.memberAt config (s.freshId cluster.name))) s.files =
          (files, .ok ()))
      (bound : s.network.bindAll ((List.range nodes).map cluster.addressAt) s.launches.length =
        .ok network)
      (launch : x = .planned c cluster config
        ((List.range nodes).map (cluster.memberAt config (s.freshId cluster.name)))) :
      Outcome s c cluster config nodes
        (awaitMembers s.launches.length ({ s with network, files }.withRunning c
          (x.seated (s.now + waitTime cluster.joinDelay)) nodes)).finish

theorem outcome (found : s.clusters[c]? = some cluster) :
    s.Outcome c cluster config nodes (startCluster c config nodes s).finish := by
  have plan : cluster.plan config nodes (s.freshId cluster.name) = _ := ManagedCluster.plan_eq_refusal
  cases refusal : (cluster.refusals config nodes).findSome? id with
  | some e =>
      rw [refusal] at plan
      rw [startCluster_of_refused found plan]
      exact .refused refusal
  | none =>
      rw [refusal] at plan
      have idle := (ManagedCluster.accepts_of_refusals refusal).idle
      cases bound : ((List.range nodes).map cluster.addressAt).find? s.network.isBound with
      | some a =>
          have taken : s.network.bindAll ((List.range nodes).map cluster.addressAt)
              s.launches.length = .error (.addressTaken a) := by rw [Network.bindAll, bound]
          rw [← Launch.addresses_planned] at taken
          obtain ⟨x, failed, course⟩ := startCluster_of_taken found idle plan taken
          rw [course]
          exact .taken refusal bound failed
      | none =>
          have room : ∃ network, s.network.bindAll ((List.range nodes).map cluster.addressAt)
              s.launches.length = .ok network := by simp [Network.bindAll, bound]
          obtain ⟨network, room⟩ := room
          rw [startCluster_of_room found plan (Launch.addresses_planned ▸ room) idle]
          cases wrote : cluster.writeConfigs config
              ((List.range nodes).map (cluster.memberAt config (s.freshId cluster.name))) s.files with
          | mk files result =>
              cases result with
              | error e => exact .unwritten refusal bound wrote rfl
              | ok _ => exact .waiting refusal bound wrote room rfl

end State

open State in
/-- A start that is left alone fails exactly when something stands in its way, and with the error of the
first such hindrance. It then has taken no time, all bindings, clusters and topologies are as they were,
and so are the files, unless it is the configuration of a member that could not be written. -/
theorem failed_start_is_atomic {s : State} {c : ClusterId} {cluster : ManagedCluster}
    (found : s.clusters[c]? = some cluster) (config : Config.Node) (nodes : Nat) :
    (∀ e, (∃ elapsed t, (startCluster c config nodes s).finish = some ⟨.error e, elapsed, t⟩) ↔
      (cluster.hindrances config nodes (s.freshId cluster.name) s.network s.files).findSome? id =
        some e) ∧
    ∀ e elapsed t, (startCluster c config nodes s).finish = some ⟨.error e, elapsed, t⟩ →
      elapsed = 0 ∧ s.Untouched t ∧
        (t.files = s.files ∨ cluster.FailsToWrite config nodes (s.freshId cluster.name) s.files e t.files) := by
  have how : s.Outcome c cluster config nodes _ := outcome found
  simp only [ManagedCluster.hindrances, List.findSome?_append]
  generalize (startCluster c config nodes s).finish = finish at how ⊢
  cases how with
  | refused refusal =>
      refine ⟨fun e => ?_, ?_⟩
      · simp [refusal]
      · rintro e elapsed t ⟨⟩
        exact ⟨rfl, .refl s, .inl rfl⟩
  | taken acceptable bound failed =>
      refine ⟨fun e => ?_, ?_⟩
      · simp [acceptable, bound]
      · rintro e elapsed t ⟨⟩
        exact ⟨rfl, .withLaunch failed, .inl rfl⟩
  | unwritten acceptable free wrote failed =>
      refine ⟨fun e => ?_, ?_⟩
      · simp [acceptable, free, wrote]
      · rintro e elapsed t ⟨⟩
        exact ⟨rfl, .withLaunch failed, .inr (ManagedCluster.failsToWrite wrote)⟩
  | waiting acceptable free wrote bound =>
      refine ⟨fun e => ?_, ?_⟩
      · simp only [acceptable, free, wrote]
        constructor
        · rintro ⟨elapsed, t, ended⟩
          cases awaitMembers_ok ended
        · nofun
      · intro e elapsed t ended
        cases awaitMembers_ok ended

/-- A cluster that writes configurations, and a folder where that of its second member would be. -/
def obstructed : State where
  clusters := [{ name := "ignite", rendering := some ("conf", .json) }]
  files := (Files.empty.makeFolders "conf/srv-1.json").1

open State in
theorem failed_start_is_atomic_obstructed :
    ∃ t, (startCluster 0 { consistentId := some "srv" } 2 obstructed).finish =
        some ⟨.error (.unwritten "conf/srv-1.json" .isAFolder), 0, t⟩ ∧
      obstructed.Untouched t := by
  obtain ⟨fails, untouched⟩ := failed_start_is_atomic (s := obstructed) (c := 0) rfl
    { consistentId := some "srv" } 2
  obtain ⟨elapsed, t, finish⟩ := (fails (.unwritten "conf/srv-1.json" .isAFolder)).mpr (by decide +kernel)
  obtain ⟨rfl, same, -⟩ := untouched _ elapsed t finish
  exact ⟨t, finish, same⟩

end ClusterHarness.InProcess
