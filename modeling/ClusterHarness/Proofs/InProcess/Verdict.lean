import ClusterHarness.Proofs.InProcess.Serving
import ClusterHarness.Proofs.Scenario.Polls

/-! # What comes of the scenario

The whole scenario on a cluster and an application of the process. What comes of it can be told from the
number of servers, the ports, the addresses that are bound, and the times alone, and whatever it is, it
leaves nothing behind.
-/

namespace ClusterHarness

/-- An activity ends with a result, however long it takes. -/
def Activity.Gives (x : Activity σ α) (s : σ) (result : Except Error α) (t : σ) : Prop :=
  ∃ elapsed, x s = some ⟨result, elapsed, t⟩

namespace Activity.Gives

variable {σ α β : Type} {s t u : σ}

theorem call {c : σ → Course σ α} {result : Except Error α}
    (ended : (c s).finish = some ⟨result, 0, t⟩) : Gives (Activity.call c) s result t :=
  ⟨0, ended⟩

theorem bounded {c : σ → Course σ α} {operation : String} {limit elapsed : Nat}
    {result : Except Error α} (ended : (c s).finish = some ⟨result, elapsed, t⟩)
    (soon : elapsed < limit) : Gives (Activity.bounded operation limit c) s result t :=
  ⟨elapsed, by simp [Activity.bounded, Course.within, Course.endsWithin, ended, soon]⟩

/-- A bound runs out when the call is not over before, or just then but late. -/
theorem bounded_timeout {c : σ → Course σ α} (operation : String) (limit : Nat)
    {elapsed : Nat} {result : Except Error α} (ended : (c s).finish = some ⟨result, elapsed, t⟩)
    (late : (c s).late = true) (spent : limit ≤ elapsed) :
    Gives (Activity.bounded operation limit c) s (.error (.timeout operation limit))
      ((c s).abandoned limit) :=
  ⟨limit, by
    simp [Activity.bounded, Course.within, Course.endsWithin, ended, late, Nat.not_lt.mpr spent]⟩

theorem bind {x : Activity σ α} {f : α → Activity σ β} {a : α} {result : Except Error β}
    (first : Gives x s (.ok a) t) (next : Gives (f a) t result u) : Gives (x >>= f) s result u := by
  obtain ⟨before, first⟩ := first
  obtain ⟨after, next⟩ := next
  refine ⟨before + after, ?_⟩
  show Activity.bind x f s = _
  simp only [Activity.bind, first, next]

theorem bind_error {x : Activity σ α} {f : α → Activity σ β} {e : Error}
    (first : Gives x s (.error e) t) : Gives (x >>= f) s (.error e) t := by
  obtain ⟨elapsed, first⟩ := first
  refine ⟨elapsed, ?_⟩
  show Activity.bind x f s = _
  simp only [Activity.bind, first]

theorem andFinally {x y : Activity σ Unit} {result : Except Error Unit}
    (first : Gives x s result t) (last : Gives y t (.ok ()) u) : Gives (x.andFinally y) s result u := by
  obtain ⟨before, first⟩ := first
  obtain ⟨after, last⟩ := last
  refine ⟨before + after, ?_⟩
  cases result <;> simp only [Activity.andFinally, first, last]

/-- A check is over at the first poll if that shows what is expected. -/
theorem check {query : σ → Course σ Nat} {pass : Nat → σ → σ} {expected : Nat}
    {settings : Config.TopologyCheck} (seen : query s = .now (.ok expected) s) :
    Gives (TopologyCheck.run query pass expected settings) s (.ok ()) s :=
  ⟨_, TopologyCheck.pollFrom_of_polls (.seen (by rw [seen]; rfl))⟩

end Activity.Gives

namespace InProcess

open Cluster ComputeExceptions

/-- The bounds of a valid harness leave some time. -/
theorem bounds_positive {harness : Config.Harness} (valid : harness.validate = .ok ()) :
    0 < harness.cluster.startupTimeout.toNat ∧ 0 < harness.cluster.shutdownTimeout.toNat ∧
      0 < harness.application.awaitStoppedTimeout.toNat := by
  simp only [Config.Harness.validate, Config.ClusterBounds.validate, Config.ApplicationBounds.validate,
    Config.require] at valid
  have positive {n : UInt64} (h : n ≠ 0) : 0 < n.toNat :=
    Nat.pos_of_ne_zero fun zero => h (UInt64.toNat_inj.mp zero)
  by_cases start : harness.cluster.startupTimeout = 0
  · simp [start, bind, Except.bind] at valid
  by_cases stop : harness.cluster.shutdownTimeout = 0
  · simp [start, stop, bind, Except.bind] at valid
  by_cases await : harness.application.awaitStoppedTimeout = 0
  · simp [start, stop, await, bind, Except.bind] at valid
  exact ⟨positive start, positive stop, positive await⟩

theorem nodeConfig_valid (context : TestContext) : (nodeConfig context).validate = .ok () := rfl

/-- The configuration of the client is valid, since every address names a port. -/
theorem asClient_valid (context : TestContext) {cluster : ManagedCluster} {servers : Nat} :
    ((nodeConfig context).asClient ((List.range servers).map cluster.addressAt)).validate = .ok () := by
  have discovery : (Config.Discovery.ofAddresses ((List.range servers).map cluster.addressAt)).validate =
      .ok () := ManagedCluster.ofAddresses_valid (List.Subset.refl _)
  simp only [Config.Node.asClient, Config.Node.apply, Config.Node.validate, discovery]
  rfl

/-- A process in which the scenario can be run: its cluster is idle and writes nothing, its application
is idle, and no two of the ids that come next are the same. -/
structure State.IsReady (s : State) (c : ClusterId) (a : AppId) (cluster : ManagedCluster)
    (context : TestContext) : Prop where
  attached : s.IsAttached
  found : s.clusters[c]? = some cluster
  idle : cluster.running = none
  unwritten : cluster.rendering = none
  application : ∃ managed, s.applications[a]? = some managed ∧ managed.running = none
  nodes : 2 ≤ context.nodes
  valid : context.harness.validate = .ok ()
  distinct : ((List.range (context.nodes - 1)).map (s.freshId cluster.name) ++
    [s.freshId "app" (context.nodes - 1)]).Nodup

/-- What is left behind: the same addresses are bound as before, nothing runs in the cluster, and the
application has no run. -/
structure State.IsRestored (s t : State) (c : ClusterId) (a : AppId) (cluster : ManagedCluster) :
    Prop where
  network : t.network = s.network
  config : t.clusterConfig c = none
  addresses : t.discoveryAddresses c = []
  topology : t.topology c = .error (.notStarted cluster.name)
  application : (t.applications[a]?.bind ManagedApplication.running) = none

/-- What comes of the scenario: that there could be no room for the servers, or else that a port is
missing, or else the first address that is taken, or else that the servers take too long to join, or else
nothing at all. They take no longer than a pause can, whatever delay they are given. -/
def ManagedCluster.verdict (cluster : ManagedCluster) (network : Network LaunchId)
    (context : TestContext) : Except Error Unit :=
  let servers := context.nodes - 1
  let startup := context.harness.cluster.startupTimeout.toNat
  if mostMembers < servers then .error .capacityOverflow
  else if UInt16.size < cluster.basePort.toNat + servers then
    .error (.startupFailed cluster.name (.noPort (UInt16.size - cluster.basePort.toNat)))
  else
    match ((List.range servers).map cluster.addressAt).find? network.isBound with
    | some taken => .error (.startupFailed cluster.name (.addressTaken taken))
    | none =>
      if startup ≤ waitTime cluster.joinDelay then .error (.timeout "cluster start" startup)
      else .ok ()

namespace State.IsReady

open Activity (Gives)

variable {s t u : State} {c : ClusterId} {a : AppId} {cluster : ManagedCluster} {context : TestContext}

theorem restored (ready : s.IsReady c a cluster context) (network : t.network = s.network)
    (clusters : t.clusters = s.clusters)
    (application : (t.applications[a]?.bind ManagedApplication.running) = none) :
    s.IsRestored t c a cluster where
  network := network
  config := by simp [State.clusterConfig, State.running?, clusters, ready.found, ready.idle]
  addresses := by simp [State.discoveryAddresses, State.running?, clusters, ready.found, ready.idle]
  topology := by simp [State.topology, clusters, ready.found, ready.idle]
  application := application

theorem unused (ready : s.IsReady c a cluster context) :
    (s.applications[a]?.bind ManagedApplication.running) = none := by
  obtain ⟨managed, known, free⟩ := ready.application
  simp [known, free]

/-- A scenario whose servers do not start returns why, once they are stopped. -/
theorem run_of_failed (ready : s.IsReady c a cluster context) {e : Error}
    (start : Gives (Activity.bounded "cluster start" context.harness.cluster.startupTimeout.toNat
      (State.startCluster c (nodeConfig context) (context.nodes - 1))) s (.error e) t)
    (stopped : Gives (stop (State.collaborators c a) context) t (.ok ()) u) :
    Gives (run (State.collaborators c a) context) s (.error e) u := by
  rw [run, if_neg (Nat.not_lt.mpr ready.nodes)]
  exact .andFinally (.bind_error start) stopped

theorem stop_of_idle (ready : s.IsReady c a cluster context) (clusters : t.clusters = s.clusters) :
    Gives (stop (State.collaborators c a) context) t (.ok ()) t := by
  have idle : t.running? c = none := by simp [State.running?, clusters, ready.found, ready.idle]
  have ended := congrArg Course.finish (State.stopCluster_of_idle idle)
  exact .bounded ended (bounds_positive ready.valid).2.1

/-! ## Servers that cannot be started -/

theorem plan_eq (ready : s.IsReady c a cluster context) :
    cluster.plan (nodeConfig context) (context.nodes - 1) (s.freshId cluster.name) =
      cluster.members (nodeConfig context) (context.nodes - 1) (s.freshId cluster.name) :=
  ManagedCluster.plan_eq ready.idle (Nat.sub_ne_zero_of_lt ready.nodes) rfl (nodeConfig_valid context)

/-- A scenario whose servers are refused leaves everything as it is. -/
theorem run_of_refused (ready : s.IsReady c a cluster context) {e : Error}
    (refused : cluster.members (nodeConfig context) (context.nodes - 1) (s.freshId cluster.name) =
      .error e) : Gives (run (State.collaborators c a) context) s (.error e) s := by
  have ended := congrArg Course.finish
    (State.startCluster_of_refused ready.found (ready.plan_eq.trans refused))
  exact ready.run_of_failed (.bounded ended (bounds_positive ready.valid).1) (ready.stop_of_idle rfl)

def members (s : State) (cluster : ManagedCluster) (context : TestContext) : List Member :=
  (List.range (context.nodes - 1)).map
    (cluster.memberAt (nodeConfig context) (s.freshId cluster.name))

theorem plan_members (ready : s.IsReady c a cluster context)
    (room : cluster.basePort.toNat + (context.nodes - 1) ≤ UInt16.size) :
    cluster.plan (nodeConfig context) (context.nodes - 1) (s.freshId cluster.name) =
      .ok (members s cluster context) := by
  rw [ready.plan_eq, ManagedCluster.members_of_le room]
  rfl

theorem run_of_taken (ready : s.IsReady c a cluster context)
    (room : cluster.basePort.toNat + (context.nodes - 1) ≤ UInt16.size) {taken : String}
    (bound : ((List.range (context.nodes - 1)).map cluster.addressAt).find? s.network.isBound =
      some taken) :
    ∃ t, Gives (run (State.collaborators c a) context) s
      (.error (.startupFailed cluster.name (.addressTaken taken))) t ∧ s.IsRestored t c a cluster := by
  have obstacle : s.network.bindAll (Launch.planned c cluster (nodeConfig context)
      (members s cluster context)).addresses s.launches.length = .error (.addressTaken taken) := by
    rw [members, Launch.addresses_planned, Network.bindAll, bound]
  obtain ⟨x, -, course⟩ := State.startCluster_of_taken ready.found ready.idle (ready.plan_members room) obstacle
  have ended := congrArg Course.finish course
  exact ⟨_, ready.run_of_failed (.bounded ended (bounds_positive ready.valid).1) (ready.stop_of_idle rfl),
    ready.restored rfl rfl ready.unused⟩

/-! ## Servers that run -/

def launch (s : State) (c : ClusterId) (cluster : ManagedCluster) (context : TestContext) : Launch :=
  (Launch.planned c cluster (nodeConfig context) (members s cluster context)).seated
    (s.now + waitTime cluster.joinDelay)

theorem addresses_launch : (launch s c cluster context).addresses =
    (List.range (context.nodes - 1)).map cluster.addressAt := by
  rw [launch, Launch.addresses_seated, members, Launch.addresses_planned]

theorem members_ne_nil (ready : s.IsReady c a cluster context) : members s cluster context ≠ [] := by
  have servers : context.nodes - 1 ≠ 0 := Nat.sub_ne_zero_of_lt ready.nodes
  simpa [members] using servers

theorem length_members : (members s cluster context).length = context.nodes - 1 := by
  simp [members]

theorem ids_members : (members s cluster context).map Member.id =
    (List.range (context.nodes - 1)).map (s.freshId cluster.name) := by
  simp only [members, List.map_map]
  rfl

theorem members_distinct (ready : s.IsReady c a cluster context) :
    ((members s cluster context).map Member.id).Nodup := by
  rw [ids_members]
  exact (List.nodup_append.mp ready.distinct).1

theorem members_servers : ∀ m ∈ members s cluster context, m.client = false := by
  intro m member
  obtain ⟨i, -, rfl⟩ := List.mem_map.mp member
  rfl

/-- The launch of the servers has just been installed, and its start call is all that is left of the
start. -/
structure HasLaunched (s : State) (c : ClusterId) (cluster : ManagedCluster) (context : TestContext)
    (t : State) : Prop where
  running : Running s c (launch s c cluster context) t
  now : t.now = s.now
  runs : t.runs = s.runs
  applications : t.applications = s.applications
  next : t.freshId "app" 0 = s.freshId "app" (context.nodes - 1)
  finish : (State.startCluster c (nodeConfig context) (context.nodes - 1) s).finish =
    (State.awaitMembers s.launches.length t).finish
  late : (State.startCluster c (nodeConfig context) (context.nodes - 1) s).late =
    (State.awaitMembers s.launches.length t).late
  abandoned : ∀ {limit}, limit ≠ 0 →
    (State.startCluster c (nodeConfig context) (context.nodes - 1) s).abandoned limit =
      (State.awaitMembers s.launches.length t).abandoned limit

theorem launched (ready : s.IsReady c a cluster context)
    (room : cluster.basePort.toNat + (context.nodes - 1) ≤ UInt16.size)
    (free : ((List.range (context.nodes - 1)).map cluster.addressAt).find? s.network.isBound = none) :
    ∃ t, HasLaunched s c cluster context t := by
  let network : Network LaunchId := ⟨s.network.bindings ++
    ((List.range (context.nodes - 1)).map cluster.addressAt).map fun a => (a, s.launches.length)⟩
  have bound : s.network.bindAll ((List.range (context.nodes - 1)).map cluster.addressAt)
      s.launches.length = .ok network := by
    rw [Network.bindAll, free]
  have planned : s.network.bindAll (Launch.planned c cluster (nodeConfig context)
      (members s cluster context)).addresses s.launches.length = .ok network := by
    rw [members, Launch.addresses_planned]
    exact bound
  have course := State.startCluster_of_free ready.found ready.idle (ready.plan_members room)
    ready.unwritten planned
  exact ⟨{ s with network }.withRunning c (launch s c cluster context) (context.nodes - 1), {
    running := ⟨rfl, rfl, by rw [addresses_launch]; exact bound, State.withRunning_last⟩
    now := rfl
    runs := rfl
    applications := rfl
    next := rfl
    finish := by rw [course]; rfl
    late := by rw [course]; rfl
    abandoned := fun positive => by rw [course]; exact if_neg positive }⟩

theorem due_launch : (launch s c cluster context).IsDue c (s.now + waitTime cluster.joinDelay)
    (nodeConfig context) (members s cluster context) :=
  .planned ..

/-- The servers can be stopped whenever they run, and then everything is as it was. -/
theorem stop_of_running (ready : s.IsReady c a cluster context) {x : Launch}
    (running : Running s c x t) (begun : ∀ seat ∈ x.seats, seat.stage ≠ .planned)
    (application : (t.applications[a]?.bind ManagedApplication.running) = none) :
    ∃ u, Gives (stop (State.collaborators c a) context) t (.ok ()) u ∧ s.IsRestored u c a cluster := by
  obtain ⟨u, ended, network, clusters, applications⟩ :=
    running.stopCluster_finish ready.found ready.idle begun
  exact ⟨u, .bounded ended (bounds_positive ready.valid).2.1,
    ready.restored network clusters (applications ▸ application)⟩

theorem run_of_slow (ready : s.IsReady c a cluster context)
    (room : cluster.basePort.toNat + (context.nodes - 1) ≤ UInt16.size)
    (free : ((List.range (context.nodes - 1)).map cluster.addressAt).find? s.network.isBound = none)
    (slow : context.harness.cluster.startupTimeout.toNat ≤ waitTime cluster.joinDelay) :
    ∃ t, Gives (run (State.collaborators c a) context) s
      (.error (.timeout "cluster start" context.harness.cluster.startupTimeout.toNat)) t ∧
        s.IsRestored t c a cluster := by
  obtain ⟨t, launched⟩ := ready.launched room free
  have now := launched.now
  have quiet := ready.attached.leavesAlone (congrArg (List.map Run.launch) launched.runs)
  have positive := Nat.ne_of_gt (bounds_positive ready.valid).1
  obtain ⟨late, y, v, ended, -⟩ := launched.running.awaitMembers_finish quiet due_launch
    ready.members_ne_nil ready.members_distinct members_servers (by omega)
  have start := Activity.Gives.bounded_timeout "cluster start"
    context.harness.cluster.startupTimeout.toNat (launched.finish.trans ended)
    (launched.late.trans late) (by omega)
  rw [launched.abandoned positive] at start
  obtain ⟨running, later⟩ := launched.running.awaitMembers_abandoned quiet due_launch
    ready.members_ne_nil positive (by omega)
  obtain ⟨u, stopped, restored⟩ := ready.stop_of_running running due_launch.begun
    (by rw [later.applications, launched.applications]; exact ready.unused)
  exact ⟨u, ready.run_of_failed start stopped, restored⟩

/-! ## The application beside the servers -/

/-- All servers are there, and nothing else has come of the scenario so far. -/
structure IsServing (s : State) (c : ClusterId) (cluster : ManagedCluster) (context : TestContext)
    (x : Launch) (t : State) : Prop where
  running : Running s c x t
  gathered : x.IsGathered c (members s cluster context)
  shows : x.topology.Shows (nodeConfig context) (members s cluster context) (context.nodes - 1)
  attached : t.runs.map Run.launch = s.runs.map Run.launch
  applications : t.applications = s.applications
  next : t.freshId "app" 0 = s.freshId "app" (context.nodes - 1)

theorem start_of_fast (ready : s.IsReady c a cluster context)
    (room : cluster.basePort.toNat + (context.nodes - 1) ≤ UInt16.size)
    (free : ((List.range (context.nodes - 1)).map cluster.addressAt).find? s.network.isBound = none)
    (fast : waitTime cluster.joinDelay < context.harness.cluster.startupTimeout.toNat) :
    ∃ x t, Gives (Activity.bounded "cluster start" context.harness.cluster.startupTimeout.toNat
        (State.startCluster c (nodeConfig context) (context.nodes - 1))) s (.ok ()) t ∧
      IsServing s c cluster context x t := by
  obtain ⟨t, launched⟩ := ready.launched room free
  have now := launched.now
  have attached := congrArg (List.map Run.launch) launched.runs
  obtain ⟨-, y, v, ended, running, gathered, shows, later⟩ := launched.running.awaitMembers_finish
    (ready.attached.leavesAlone attached) due_launch ready.members_ne_nil ready.members_distinct
    members_servers (by omega)
  rw [length_members] at shows
  exact ⟨y, v, .bounded (launched.finish.trans ended) (by omega), {
    running
    gathered
    shows
    attached := later.attached.trans attached
    applications := later.applications.trans launched.applications
    next := (later.freshId "app" 0).trans launched.next }⟩

theorem seen (ready : s.IsReady c a cluster context) {x : Launch} {config : Config.Node}
    {nodes : List Member} {version : Nat} (running : Running s c x t)
    (shows : x.topology.Shows config nodes version) :
    Gives (checkTopology (State.collaborators c a) context version) t (.ok ()) t := by
  have reported : State.topologyVersion c t = .now (.ok version) t := by
    rw [State.topologyVersion, running.topology_eq ready.found]
    exact congrArg (fun n => Course.now (.ok n) t) shows.version
  exact .check reported

theorem client_of_running (ready : s.IsReady c a cluster context) {x : Launch}
    (running : Running s c x t) :
    Gives (clientConfig (State.collaborators c a)) t
      (.ok (x.topology.config.asClient x.addresses)) t := by
  have config : Gives (Activity.read (State.collaborators c a).clusterConfig) t
      (.ok (some x.topology.config)) t :=
    ⟨0, by rw [← running.clusterConfig_eq ready.found]; rfl⟩
  have addresses : Gives (Activity.read (State.collaborators c a).discoveryAddresses) t
      (.ok x.addresses) t :=
    ⟨0, by rw [← running.discoveryAddresses_eq ready.found]; rfl⟩
  exact config.bind (addresses.bind ⟨0, rfl⟩)

theorem canServe (ready : s.IsReady c a cluster context) {client : Member}
    (id : client.id = s.freshId "app" (context.nodes - 1)) :
    CanServe (nodeConfig context) (members s cluster context) client where
  shared := rfl
  some := ready.members_ne_nil
  servers := members_servers
  away := by
    rw [id, ids_members]
    exact fun there => (List.nodup_append.mp ready.distinct).2.2 _ there _ (by simp) rfl

/-- The application does all that it has to, and leaves the servers as they are. -/
theorem attend (ready : s.IsReady c a cluster context) {x : Launch}
    (serving : IsServing s c cluster context x t) :
    ∃ config v y u, Gives (clientConfig (State.collaborators c a)) t (.ok config) t ∧
      Gives (Activity.call ((State.collaborators c a).startApplication config
        Application.exceptionGeneration.entryPoint params)) t (.ok ()) v ∧
      Gives (Activity.bounded "application await_stopped"
        context.harness.application.awaitStoppedTimeout.toNat (State.awaitStopped a)) v (.ok ()) u ∧
      Running s c y u ∧ y.IsGathered c (members s cluster context) ∧
      y.topology.Shows (nodeConfig context) (members s cluster context) (context.nodes - 1 + 2) ∧
      (u.applications[a]?.bind ManagedApplication.running) = none := by
  obtain ⟨managed, known, unused⟩ := ready.application
  rw [← serving.applications] at known
  have addresses : x.addresses = (List.range (context.nodes - 1)).map cluster.addressAt := by
    rw [serving.gathered.addresses, ← (due_launch (c := c)).addresses, addresses_launch]
  have some : x.addresses ≠ [] := by
    have servers : context.nodes - 1 ≠ 0 := Nat.sub_ne_zero_of_lt ready.nodes
    simpa [addresses] using servers
  have config := ready.client_of_running serving.running
  rw [serving.shows.config] at config
  have valid : ((nodeConfig context).asClient x.addresses).validate = .ok () :=
    addresses ▸ asClient_valid context
  have started := serving.running.startApplication_eq serving.shows some valid rfl rfl known unused
  have away : (t.newRun ((nodeConfig context).asClient x.addresses) s.launches.length).member.id =
      s.freshId "app" (context.nodes - 1) := serving.next
  have shows : x.topology.Shows (nodeConfig context) (members s cluster context)
      (members s cluster context).length := length_members ▸ serving.shows
  obtain ⟨y, u, done, running, gathered, shows, freed⟩ := serving.running.awaitStopped_finish
    serving.gathered shows (ready.canServe away) rfl known
    (ready.attached.leavesAlone serving.attached)
  rw [length_members] at shows
  exact ⟨_, _, y, u, config, .call (congrArg Course.finish started),
    .bounded done (bounds_positive ready.valid).2.2, running, gathered, shows, freed⟩

theorem run_of_fast (ready : s.IsReady c a cluster context)
    (room : cluster.basePort.toNat + (context.nodes - 1) ≤ UInt16.size)
    (free : ((List.range (context.nodes - 1)).map cluster.addressAt).find? s.network.isBound = none)
    (fast : waitTime cluster.joinDelay < context.harness.cluster.startupTimeout.toNat) :
    ∃ t, Gives (run (State.collaborators c a) context) s (.ok ()) t ∧
      s.IsRestored t c a cluster := by
  obtain ⟨x, t, start, serving⟩ := ready.start_of_fast room free fast
  obtain ⟨config, v, y, u, client, call, ended, running, gathered, shows, freed⟩ :=
    ready.attend serving
  obtain ⟨w, stopped, restored⟩ := ready.stop_of_running running gathered.begun freed
  refine ⟨w, ?_, restored⟩
  rw [run, if_neg (Nat.not_lt.mpr ready.nodes)]
  refine .andFinally ?_ stopped
  exact start.bind ((ready.seen serving.running serving.shows).bind (client.bind (call.bind
    (ended.bind (ready.seen running shows)))))

end State.IsReady

open Activity (Gives)

/-- The scenario ends on every idle cluster and idle application of the process, with a verdict that the
number of servers, the ports, the addresses that are bound and the times decide, and leaves nothing behind
whatever it is. -/
theorem scenario_verdict {s : State} {c : ClusterId} {a : AppId} {cluster : ManagedCluster}
    {context : TestContext} (ready : s.IsReady c a cluster context) :
    ∃ t, Gives (run (State.collaborators c a) context) s (cluster.verdict s.network context) t ∧
      s.IsRestored t c a cluster := by
  have unchanged := ready.restored rfl rfl ready.unused
  rw [ManagedCluster.verdict]
  by_cases countless : ManagedCluster.mostMembers < context.nodes - 1
  · rw [if_pos countless]
    exact ⟨s, ready.run_of_refused (ManagedCluster.members_of_mostMembers_lt countless), unchanged⟩
  rw [if_neg countless]
  by_cases short : UInt16.size < cluster.basePort.toNat + (context.nodes - 1)
  · have portless : cluster.members (nodeConfig context) (context.nodes - 1) (s.freshId cluster.name) =
        .error (.startupFailed cluster.name (.noPort (UInt16.size - cluster.basePort.toNat))) :=
      ManagedCluster.members_of_lt (Nat.le_of_not_lt countless) short
    rw [if_pos short]
    exact ⟨s, ready.run_of_refused portless, unchanged⟩
  · have room := Nat.le_of_not_lt short
    rw [if_neg short]
    cases free : ((List.range (context.nodes - 1)).map cluster.addressAt).find? s.network.isBound with
    | some taken => exact ready.run_of_taken room free
    | none =>
        by_cases slow : context.harness.cluster.startupTimeout.toNat ≤ waitTime cluster.joinDelay
        · simp only [if_pos slow]
          exact ready.run_of_slow room free slow
        · simp only [if_neg slow]
          exact ready.run_of_fast room free (Nat.lt_of_not_le slow)

def newProcess (cluster : ManagedCluster) : State where
  clusters := [cluster]
  applications := [{}]

theorem isReady_newProcess {cluster : ManagedCluster} {context : TestContext}
    (idle : cluster.running = none) (unwritten : cluster.rendering = none)
    (nodes : 2 ≤ context.nodes) (valid : context.harness.validate = .ok ())
    (distinct : ((List.range (context.nodes - 1)).map ((newProcess cluster).freshId cluster.name) ++
      [(newProcess cluster).freshId "app" (context.nodes - 1)]).Nodup) :
    (newProcess cluster).IsReady 0 0 cluster context where
  attached := nofun
  found := rfl
  idle := idle
  unwritten := unwritten
  application := ⟨{}, rfl, rfl⟩
  nodes := nodes
  valid := valid
  distinct := distinct

theorem scenario_verdict_three_nodes :
    ∃ t, Gives (run (State.collaborators 0 0) { name := "three", nodes := 3, version := .dev })
        (newProcess { name := "ignite" }) (.ok ()) t ∧
      (newProcess { name := "ignite" }).IsRestored t 0 0 { name := "ignite" } :=
  scenario_verdict (isReady_newProcess rfl rfl (by decide) rfl (by decide +kernel))

/-- Servers that are to take a little longer to join than a pause can take. -/
def slowest : ManagedCluster := { name := "ignite", joinDelay := longestWait + 2 }

/-- A harness that would not wait for them as long as that. -/
def patient : TestContext where
  name := "patient"
  nodes := 2
  version := .dev
  harness := { cluster := { startupTimeout := 946080000001 } }

/-- The delay of the servers is cut and the bound is not, so that they are there in time. -/
theorem start_of_slowest_is_in_time :
    (newProcess slowest).IsReady 0 0 slowest patient ∧
      patient.harness.cluster.startupTimeout.toNat < slowest.joinDelay ∧
      slowest.basePort.toNat + patient.nodes - 2 ≤ 65535 ∧ (newProcess slowest).network.bindings = [] ∧
      (∃ t, Gives (run (State.collaborators 0 0) patient) (newProcess slowest) (.ok ()) t) ∧
      ¬ ∃ t, Gives (run (State.collaborators 0 0) patient) (newProcess slowest)
        (.error (.timeout "cluster start" 946080000001)) t := by
  have ready : (newProcess slowest).IsReady 0 0 slowest patient :=
    isReady_newProcess rfl rfl (by decide) rfl (by decide +kernel)
  obtain ⟨t, ⟨elapsed, passed⟩, -⟩ := ready.run_of_fast (by decide) rfl (by decide)
  refine ⟨ready, by decide, by decide, rfl, ⟨t, elapsed, passed⟩, ?_⟩
  rintro ⟨u, other, timeout⟩
  cases passed.symm.trans timeout

end InProcess

end ClusterHarness
