import ClusterHarness.Proofs.InProcess.Admission
import ClusterHarness.Proofs.InProcess.Attending

/-! # An application beside the servers that run

The start of an application with the addresses of the servers, and the wait until it has ended. It takes
no time, and the servers run on as before, two versions further.
-/

namespace ClusterHarness.InProcess

open Cluster

/-- Whether members can serve a client with a configuration. -/
structure CanServe (config : Config.Node) (members : List Member) (client : Member) : Prop where
  shared : config.peerClassLoadingEnabled = true
  some : members ≠ []
  servers : ∀ m ∈ members, m.client = false
  away : client.id ∉ members.map Member.id

/-- A run that members can serve has no reason to fail. -/
theorem CanServe.failureAt {config : Config.Node} {members : List Member} {x : Run} {t : Topology}
    {version : Nat} (serve : CanServe config members x.member) (shows : t.Shows config members version)
    (shared : x.caller.peerClassLoadingEnabled = true) : x.failureAt t = none := by
  obtain ⟨server, there⟩ := List.exists_mem_of_ne_nil members serve.some
  have other : server.id ≠ x.member.id := fun same => serve.away (same ▸ List.mem_map_of_mem there)
  have away : x.member.id ∉ t.members.map Member.id :=
    fun taken => serve.away ((shows.members.map Member.id).mem_iff.mp taken)
  exact Run.failureAt_of_served away ⟨shared, shows.config ▸ serve.shared⟩
    (shows.mem_remoteServers.mpr ⟨there, serve.servers server there, other⟩)

namespace Running

variable {s t : State} {c : ClusterId} {a : AppId} {cluster : ManagedCluster}
  {managed : ManagedApplication} {y : Launch} {config client : Config.Node} {members : List Member}
  {version : Nat}

/-- An application finds the servers by their addresses. -/
theorem startApplication_eq (running : Running s c y t)
    (shows : y.topology.Shows config members version) (some : y.addresses ≠ [])
    (valid : client.validate = .ok ()) (same : client.version = config.version)
    (discovery : client.discovery.map Config.Discovery.addresses = .some y.addresses)
    (known : t.applications[a]? = .some managed) (idle : managed.running = none) :
    State.startApplication a client Application.exceptionGeneration.entryPoint t =
      .now (.ok ()) (t.withRun a (t.newRun client s.launches.length)) := by
  obtain ⟨d, settings, addresses⟩ := Option.map_eq_some_iff.mp discovery
  have owner : t.network.resolve? d.addresses = .some s.launches.length :=
    addresses ▸ Network.resolve?_bindAll running.network some
  have discover : t.discover .exceptionGeneration client = .ok (s.launches.length, y) := by
    simp [State.discover, settings, owner, running.launch]
  have entry : Application.ofEntryPoint? Application.exceptionGeneration.entryPoint =
      .some .exceptionGeneration := rfl
  have version : y.topology.config.version = client.version := by rw [shows.config, same]
  rw [State.startApplication, State.startRun_of_found entry valid known discover,
    if_neg (not_not.mpr version), idle]
  rfl

theorem later (running : Running s c y t) {u : State} (later : Later t u) {y' : Launch}
    (launch : u.launches[s.launches.length]? = some y') (owner : y'.cluster = c)
    (addresses : y'.addresses = y.addresses) : Running s c y' u where
  owner := owner
  clusters := by rw [later.rest, running.clusters]
  network := by rw [addresses, running.network, later.rest]
  launch := launch

/-- The run that a caller waits for, once it is taken off. -/
theorem takeRun?_withRun (known : t.applications[a]? = some managed) (x : Run) :
    (t.withRun a x).takeRun? a = some (t.runs.length,
      (t.withRun a x).updateApplication a fun m => { m with running := none }) := by
  simp [State.takeRun?, State.withRun, known]

theorem attending_withRun (running : Running s c y t)
    (quiet : ∀ r, t.LeavesAlone s.launches.length r) {x : Run} (attached : x.launch = s.launches.length) :
    Attending s.launches.length t.runs.length y x
      ((t.withRun a x).updateApplication a fun m => { m with running := none }) where
  launch := running.launch
  run := by simp [State.updateApplication, State.withRun]
  attached := attached
  others k hk z hz := by
    rcases of_getElem?_concat hz with old | ⟨last, -⟩
    · exact quiet k z old
    · exact absurd last hk

/-- The application has ended well when the caller is told of it, and no time has passed. -/
theorem awaitStopped_finish (running : Running s c y t) (gathered : y.IsGathered c members)
    (shows : y.topology.Shows config members members.length)
    (serve : CanServe config members (t.newRun client s.launches.length).member)
    (shared : client.peerClassLoadingEnabled = true) (known : t.applications[a]? = some managed)
    (quiet : ∀ r, t.LeavesAlone s.launches.length r) :
    ∃ y' u, (State.awaitStopped a (t.withRun a (t.newRun client s.launches.length))).finish =
        some ⟨.ok (), 0, u⟩ ∧
      Running s c y' u ∧ y'.IsGathered c members ∧
      y'.topology.Shows config members (members.length + 2) ∧
      (u.applications[a]?.bind ManagedApplication.running) = none := by
  let x := t.newRun client s.launches.length
  have taken := takeRun?_withRun known x
  have attending := attending_withRun (a := a) running quiet (x := x) rfl
  generalize ht : ((t.withRun a x).updateApplication a fun m =>
    { m with running := none }) = v at taken attending
  have freed : (v.applications[a]?.bind ManagedApplication.running) = none := by
    simp [← ht, State.updateApplication, State.withRun, known]
  have begun : Running s c y v := ht ▸ ⟨running.owner, running.clusters, running.network, running.launch⟩
  have reached : Reached y.topology x y.topology x := .spawned (.self _)
  obtain ⟨y', x', failure, u, finish, ended, nears, attending', later⟩ :=
    Attending.awaitStopped_finish taken attending reached (gathered.rests _) (Nat.le_refl _)
  have away : x.member.id ∉ y.topology.members.map Member.id :=
    fun taken => serve.away ((shows.members.map Member.id).mem_iff.mp taken)
  obtain ⟨rfl, holds⟩ := nears.reached.left_of_away away ended
  rw [serve.failureAt shows shared] at finish
  have gathered' : y'.IsGathered c members := by
    rw [nears.same]
    exact ⟨gathered.owner, gathered.told, gathered.seats⟩
  have shows' : y'.topology.Shows config members (members.length + 2) :=
    ⟨holds.config.trans shows.config, holds.members ▸ shows.members,
      holds.version.trans (congrArg (· + 2) shows.version), holds.announced shows.announced⟩
  refine ⟨y', u, finish, ?_, gathered', shows', ?_⟩
  · exact begun.later later attending'.launch gathered'.owner
      (gathered'.addresses.trans gathered.addresses.symm)
  · rw [later.rest]
    exact freed

end Running

end ClusterHarness.InProcess
