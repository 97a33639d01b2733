import ClusterHarness.Cluster.Topology
import Mathlib.Data.List.Perm.Basic

/-! # Joining and leaving

What becomes of the nodes, of the version and of what was announced. The order of the nodes is that of
their ids and of no matter here.
-/

namespace ClusterHarness.Cluster.Topology

variable {t u : Topology} {m : Member} {id : String}

theorem hasMember_iff : t.hasMember id = true ↔ id ∈ t.members.map Member.id := by
  simp [hasMember]

theorem insertMember_perm (m : Member) (members : List Member) :
    (insertMember m members).Perm (m :: members) := by
  induction members with
  | nil => exact .refl _
  | cons other rest ih =>
      rw [insertMember]
      split
      · exact .refl _
      · exact (ih.cons other).trans (.swap m other rest)

/-- What does not ask for a node finds the same with it and without it. -/
theorem filter_insertMember {p : Member → Bool} (unasked : p m = false) (members : List Member) :
    (insertMember m members).filter p = members.filter p := by
  induction members with
  | nil => simp [insertMember, unasked]
  | cons other rest ih =>
      rw [insertMember]
      split
      · rw [List.filter_cons_of_neg (by simp [unasked])]
      · rw [List.filter_cons, List.filter_cons, ih]

structure Joined (t : Topology) (m : Member) (u : Topology) : Prop where
  away : m.id ∉ t.members.map Member.id
  members : u.members.Perm (m :: t.members)
  version : u.version = t.version + 1
  announced : u.announced = u.snapshot
  name : u.name = t.name
  config : u.config = t.config
  picks : u.picks = t.picks

theorem join_ok (h : t.join m = .ok u) : Joined t m u := by
  simp only [join] at h
  split at h
  · cases h
  · rename_i away
    cases h
    exact ⟨fun there => away (hasMember_iff.mpr there), insertMember_perm m t.members, rfl, rfl, rfl,
      rfl, rfl⟩

theorem members_of_join (h : t.join m = .ok u) : u.members = insertMember m t.members := by
  simp only [join] at h
  split at h
  · cases h
  · cases h
    rfl

theorem join_of_away (away : m.id ∉ t.members.map Member.id) : ∃ u, t.join m = .ok u := by
  rw [join, if_neg fun there => away (hasMember_iff.mp there)]
  exact ⟨_, rfl⟩

theorem join_of_mem (there : m.id ∈ t.members.map Member.id) :
    t.join m = .error (.startupFailed t.name (.alreadyInTopology m.id)) := by
  rw [join, if_pos (hasMember_iff.mpr there)]

theorem join_error {e : Error} (h : t.join m = .error e) :
    m.id ∈ t.members.map Member.id ∧ e = .startupFailed t.name (.alreadyInTopology m.id) := by
  simp only [join] at h
  split at h
  · rename_i there
    cases h
    exact ⟨hasMember_iff.mp there, rfl⟩
  · cases h

structure Left (t : Topology) (id : String) (u : Topology) : Prop where
  members : u.members = t.members.filter fun m => m.id != id
  version : u.version = t.version + 1
  announced : u.announced = u.snapshot
  name : u.name = t.name
  config : u.config = t.config
  picks : u.picks = t.picks

theorem leave?_of_mem (there : id ∈ t.members.map Member.id) :
    ∃ u, t.leave? id = some u ∧ Left t id u := by
  rw [leave?, if_pos (hasMember_iff.mpr there)]
  exact ⟨_, rfl, rfl, rfl, rfl, rfl, rfl, rfl⟩

theorem leave?_of_not_mem (away : id ∉ t.members.map Member.id) : t.leave? id = none := by
  rw [leave?, if_neg fun there => away (hasMember_iff.mp there)]

theorem config_leave : ((t.leave? id).getD t).config = t.config := by
  rw [leave?]
  split
  · rfl
  · rfl

theorem version_le_leave : t.version ≤ ((t.leave? id).getD t).version := by
  rw [leave?]
  split
  · exact Nat.le_succ _
  · exact Nat.le_refl _

/-- A leave announces what there is, also when nobody leaves. -/
theorem announced_leave (announced : t.announced = t.snapshot) (id : String) :
    ((t.leave? id).getD t).announced = ((t.leave? id).getD t).snapshot := by
  rw [leave?]
  split
  · rfl
  · exact announced

theorem mem_remoteServers {asking : String} : m ∈ t.remoteServers asking ↔
    m ∈ t.members ∧ m.client = false ∧ m.id ≠ asking := by
  simp [remoteServers]

/-- A pick falls on one of the servers, and only the turn changes. -/
theorem nextRemoteServer?_eq_some {asking : String} (picked : t.nextRemoteServer? asking = some (m, u)) :
    m ∈ t.remoteServers asking ∧ u = { t with picks := t.picks + 1 } := by
  simp only [nextRemoteServer?, Option.map_eq_some_iff, Prod.mk.injEq] at picked
  obtain ⟨m, found, rfl, rfl⟩ := picked
  exact ⟨List.mem_of_getElem? found, rfl⟩

theorem nextRemoteServer?_of_mem {asking : String} (there : m ∈ t.remoteServers asking) :
    ∃ server ∈ t.remoteServers asking,
      t.nextRemoteServer? asking = some (server, { t with picks := t.picks + 1 }) := by
  have turn : t.picks.toNat % (t.remoteServers asking).length < (t.remoteServers asking).length :=
    Nat.mod_lt _ (List.length_pos_of_mem there)
  refine ⟨_, List.getElem_mem turn, ?_⟩
  simp only [nextRemoteServer?, List.getElem?_eq_getElem turn, Option.map_some]

theorem nextRemoteServer?_eq_none {asking : String} :
    t.nextRemoteServer? asking = none ↔ t.remoteServers asking = [] := by
  cases servers : t.remoteServers asking with
  | nil => simp [nextRemoteServer?, servers]
  | cons m rest =>
      have there : m ∈ t.remoteServers asking := by simp [servers]
      obtain ⟨server, -, picked⟩ := nextRemoteServer?_of_mem there
      simp [picked]

/-! ## What a topology shows -/

/-- What there is to say of a topology: its nodes in any order, its version, and that all is announced. -/
structure Shows (t : Topology) (config : Config.Node) (nodes : List Member) (version : Nat) : Prop where
  config : t.config = config
  members : t.members.Perm nodes
  version : t.version = version
  announced : t.announced = t.snapshot

namespace Shows

variable {config : Config.Node} {nodes : List Member} {version : Nat}

theorem perm (shows : t.Shows config nodes version) {others : List Member} (h : nodes.Perm others) :
    t.Shows config others version :=
  { shows with members := shows.members.trans h }

theorem join (shows : t.Shows config nodes version) (away : m.id ∉ nodes.map Member.id) :
    ∃ u, t.join m = .ok u ∧ u.Shows config (m :: nodes) (version + 1) := by
  have absent : m.id ∉ t.members.map Member.id :=
    fun there => away ((shows.members.map Member.id).mem_iff.mp there)
  obtain ⟨u, room⟩ := join_of_away absent
  have joined := join_ok room
  exact ⟨u, room, joined.config.trans shows.config, joined.members.trans (shows.members.cons m),
    joined.version.trans (congrArg (· + 1) shows.version), joined.announced⟩

theorem servers (shows : t.Shows config nodes version) :
    t.announced.servers = nodes.countP fun m => !m.client := by
  rw [shows.announced, snapshot]
  exact shows.members.countP_eq _

theorem snapshot_of_servers (shows : t.Shows config nodes version)
    (servers : ∀ m ∈ nodes, m.client = false) : t.snapshot = ⟨version, nodes.length, 0⟩ := by
  have all : nodes.countP (fun m => !m.client) = nodes.length :=
    List.countP_eq_length.mpr fun m member => by rw [servers m member]; rfl
  have none : nodes.countP Member.client = 0 :=
    List.countP_eq_zero.mpr fun m member => by simp [servers m member]
  rw [snapshot, shows.version, shows.members.countP_eq, shows.members.countP_eq, all, none]

theorem mem_remoteServers (shows : t.Shows config nodes version) {asking : String} :
    m ∈ t.remoteServers asking ↔ m ∈ nodes ∧ m.client = false ∧ m.id ≠ asking := by
  rw [Topology.mem_remoteServers, shows.members.mem_iff]

end Shows

end ClusterHarness.Cluster.Topology
