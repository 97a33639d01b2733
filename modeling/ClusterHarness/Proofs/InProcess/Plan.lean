import ClusterHarness.Proofs.Config.Validity
import ClusterHarness.Proofs.InProcess.Effect
import ClusterHarness.Proofs.Text.Numeral
import Mathlib.Data.List.Nodup

/-! # The members of a launch

Which members a launch gets. They have the ports from that of the cluster on, each one the next, and
there is no launch when the ports do not suffice. The call panics before it looks at any port when there
are more members to be than memory could have room for.
-/

namespace ClusterHarness.InProcess

open Cluster

namespace ManagedCluster

/-- The address of a member whose port exists. -/
def addressAt (c : ManagedCluster) (index : Nat) : String :=
  host ++ ":" ++ Text.natText (c.basePort.toNat + index)

/-- A member whose port exists. -/
def memberAt (c : ManagedCluster) (config : Config.Node) (freshId : Nat → String) (index : Nat) :
    Member where
  id := memberId config freshId index
  address := some (c.addressAt index)

theorem addressAt_injective {c : ManagedCluster} {i j : Nat}
    (h : c.addressAt i = c.addressAt j) : i = j := by
  have same : Text.natText (c.basePort.toNat + i) = Text.natText (c.basePort.toNat + j) := by
    apply String.toList_injective
    have lists := congrArg String.toList h
    simpa only [addressAt, String.toList_append, List.append_cancel_left_eq] using lists
  have := Text.natText_injective same
  omega

/-- Whichever members are asked for the cluster, their addresses name ports. -/
theorem ofAddresses_valid {c : ManagedCluster} {nodes : Nat} {chosen : List String}
    (own : chosen ⊆ (List.range nodes).map c.addressAt) :
    (Config.Discovery.ofAddresses chosen).validate = .ok () := by
  have ports : ∀ a ∈ chosen, ':' ∈ a.toList := by
    intro a there
    obtain ⟨i, -, rfl⟩ := List.mem_map.mp (own there)
    simp [addressAt]
  have sound : (Config.Discovery.ofAddresses chosen).IsSound := ⟨ports, nofun⟩
  exact (Config.Discovery.judged _).ok_iff.mpr ((Config.Discovery.rules_hold _).mpr sound)

/-- Counting on from the port of the cluster gives the sum, or wraps around and then is found below that
port. -/
theorem port?_eq_some_iff {c : ManagedCluster} {index : Nat} {port : UInt16} :
    c.port? index = some port ↔ port.toNat = c.basePort.toNat + index := by
  have guards : c.port? index = some port ↔ index < UInt16.size ∧
      c.basePort ≤ c.basePort + .ofNat index ∧ c.basePort + .ofNat index = port := by
    simp [port?, Option.bind_eq_some_iff]
  have base : c.basePort.toNat < 2 ^ 16 := c.basePort.toNat_lt
  have word : port.toNat < 2 ^ 16 := port.toNat_lt
  rw [guards, UInt16.le_iff_toNat_le, ← UInt16.toNat_inj, UInt16.toNat_add, UInt16.toNat_ofNat',
    UInt16.size]
  omega

theorem port?_eq_none_iff {c : ManagedCluster} {index : Nat} :
    c.port? index = none ↔ UInt16.size ≤ c.basePort.toNat + index := by
  rw [Option.eq_none_iff_forall_ne_some]
  simp only [ne_eq, port?_eq_some_iff]
  constructor
  · intro none
    by_contra room
    exact none (UInt16.ofNatLT _ (Nat.not_le.mp room)) (UInt16.toNat_ofNatLT ..)
  · intro full port same
    have word : port.toNat < UInt16.size := port.toNat_lt
    omega

theorem memberAddress_of_lt {c : ManagedCluster} {index : Nat}
    (h : c.basePort.toNat + index < UInt16.size) : c.memberAddress index = .ok (c.addressAt index) := by
  have port : c.port? index = some (.ofNatLT _ h) := port?_eq_some_iff.mpr (UInt16.toNat_ofNatLT ..)
  simp only [memberAddress, port, UInt16.toNat_ofNatLT, addressAt]

theorem memberAddress_of_le {c : ManagedCluster} {index : Nat}
    (h : UInt16.size ≤ c.basePort.toNat + index) : c.memberAddress index = .error (.noPort index) := by
  simp only [memberAddress, port?_eq_none_iff.mpr h]

theorem member_of_lt {c : ManagedCluster} {config : Config.Node} {freshId : Nat → String}
    {index : Nat} (h : c.basePort.toNat + index < UInt16.size) :
    c.member config freshId index = .ok (c.memberAt config freshId index) := by
  simp only [member, memberAddress_of_lt h]
  rfl

theorem member_of_le {c : ManagedCluster} {config : Config.Node} {freshId : Nat → String}
    {index : Nat} (h : UInt16.size ≤ c.basePort.toNat + index) :
    c.member config freshId index = .error (.noPort index) := by
  simp only [member, memberAddress_of_le h]
  rfl

end ManagedCluster

theorem mapM_ok {α β ε : Type} {f : α → Except ε β} {g : α → β} {l : List α}
    (h : ∀ a ∈ l, f a = .ok (g a)) : l.mapM f = .ok (l.map g) := by
  induction l with
  | nil => rfl
  | cons a l ih =>
      rw [List.mapM_cons, h a (by simp), ih fun b hb => h b (by simp [hb])]
      rfl

theorem mapM_error {α β ε : Type} {f : α → Except ε β} {g : α → β} {l more : List α} {a : α}
    {e : ε} (h : ∀ b ∈ l, f b = .ok (g b)) (bad : f a = .error e) :
    (l ++ a :: more).mapM f = .error e := by
  induction l with
  | nil =>
      rw [List.nil_append, List.mapM_cons, bad]
      rfl
  | cons b l ih =>
      rw [List.cons_append, List.mapM_cons, h b (by simp), ih fun d hd => h d (by simp [hd])]
      rfl

namespace ManagedCluster

variable {c : ManagedCluster} {config : Config.Node} {freshId : Nat → String} {nodes : Nat}

theorem members_of_mostMembers_lt (h : mostMembers < nodes) :
    c.members config nodes freshId = .error .capacityOverflow :=
  if_pos h

example : mostMembers = 164703072086692425 := by decide

/-- There is room for all members that have a port. -/
theorem le_mostMembers (h : c.basePort.toNat + nodes ≤ UInt16.size) : nodes ≤ mostMembers := by
  have ports : UInt16.size ≤ mostMembers := by decide
  omega

theorem members_of_le (h : c.basePort.toNat + nodes ≤ UInt16.size) :
    c.members config nodes freshId = .ok ((List.range nodes).map (c.memberAt config freshId)) := by
  have fits : nodes ≤ mostMembers := le_mostMembers h
  have each : (List.range nodes).mapM (c.member config freshId) =
      .ok ((List.range nodes).map (c.memberAt config freshId)) :=
    mapM_ok fun i hi => member_of_lt (by have := List.mem_range.mp hi; omega)
  rw [members, if_neg (Nat.not_lt.mpr fits), each]
  rfl

/-- The first member without a port is the one behind the last port. -/
theorem members_of_lt (fits : nodes ≤ mostMembers) (h : UInt16.size < c.basePort.toNat + nodes) :
    c.members config nodes freshId =
      .error (.startupFailed c.name (.noPort (UInt16.size - c.basePort.toNat))) := by
  have port : c.basePort.toNat < UInt16.size := c.basePort.toNat_lt
  have portless : (List.range nodes).mapM (c.member config freshId) =
      .error (.noPort (UInt16.size - c.basePort.toNat)) := by
    obtain ⟨more, rfl⟩ : ∃ more, nodes = UInt16.size - c.basePort.toNat + (1 + more) :=
      ⟨nodes - (UInt16.size - c.basePort.toNat) - 1, by omega⟩
    rw [List.range_add, Nat.add_comm 1 more, List.range_succ_eq_map, List.map_cons, Nat.add_zero]
    apply mapM_error (g := c.memberAt config freshId)
    · intro i hi
      exact member_of_lt (by have := List.mem_range.mp hi; omega)
    · exact member_of_le (by omega)
  rw [members, if_neg (Nat.not_lt.mpr fits), portless]
  rfl

theorem members_eq_ok_iff {members : List Member} : c.members config nodes freshId = .ok members ↔
    c.basePort.toNat + nodes ≤ UInt16.size ∧
      members = (List.range nodes).map (c.memberAt config freshId) := by
  by_cases room : c.basePort.toNat + nodes ≤ UInt16.size
  · rw [members_of_le room, Except.ok.injEq, eq_comm, and_iff_right room]
  · refine iff_of_false ?_ fun there => room there.1
    by_cases fits : nodes ≤ mostMembers
    · rw [members_of_lt fits (Nat.not_le.mp room)]
      nofun
    · rw [members_of_mostMembers_lt (Nat.not_le.mp fits)]
      nofun

/-- What a cluster asks of a request before it starts. -/
structure Accepts (c : ManagedCluster) (config : Config.Node) (nodes : Nat) : Prop where
  idle : c.running = none
  some : nodes ≠ 0
  server : config.clientMode = false
  valid : config.validate = .ok ()
  room : c.basePort.toNat + nodes ≤ UInt16.size

theorem plan_eq (idle : c.running = none) (some : nodes ≠ 0) (server : config.clientMode = false)
    (valid : config.validate = .ok ()) :
    c.plan config nodes freshId = c.members config nodes freshId := by
  simp [plan, idle, some, server, valid, Except.mapError, bind, Except.bind]

/-- An acceptable request is acceptable whatever ids are generated for it. -/
theorem Accepts.plan (accepts : c.Accepts config nodes) :
    c.plan config nodes freshId = .ok ((List.range nodes).map (c.memberAt config freshId)) := by
  rw [plan_eq accepts.idle accepts.some accepts.server accepts.valid, members_of_le accepts.room]

theorem accepts_of_plan {members : List Member} (h : c.plan config nodes freshId = .ok members) :
    c.Accepts config nodes := by
  simp only [ManagedCluster.plan] at h
  by_cases running : c.running.isSome
  · simp [running, bind, Except.bind] at h
  by_cases none : nodes = 0
  · simp [running, none, bind, Except.bind] at h
  by_cases client : config.clientMode = true
  · simp [running, none, client, bind, Except.bind] at h
  cases valid : config.validate with
  | error e => simp [running, none, client, valid, Except.mapError, bind, Except.bind] at h
  | ok _ =>
      have idle : c.running = .none := by simpa using running
      have server : config.clientMode = false := by simpa using client
      have given : c.members config nodes freshId = .ok members := by
        simpa [running, none, client, valid, Except.mapError, bind, Except.bind] using h
      exact ⟨idle, none, server, valid, (members_eq_ok_iff.mp given).1⟩

theorem plan_ok {members : List Member} (h : c.plan config nodes freshId = .ok members) :
    nodes ≠ 0 ∧ c.basePort.toNat + nodes ≤ UInt16.size ∧
      members = (List.range nodes).map (c.memberAt config freshId) := by
  have accepts := accepts_of_plan h
  rw [accepts.plan] at h
  cases h
  exact ⟨accepts.some, accepts.room, rfl⟩

/-- Members have the ports from that of the cluster on, each the next one. Counting on never wraps
around: there are no members when the ports do not suffice, and what is told then is the first member
that would be without one. Only when there are more members to be than there could be room for, the call
panics instead. -/
theorem ports_never_wrap (c : ManagedCluster) (config : Config.Node) (nodes : Nat)
    (freshId : Nat → String) :
    (∀ index port, c.port? index = some port ↔ port.toNat = c.basePort.toNat + index) ∧
    (∀ index, c.port? index = none ↔ 65536 - c.basePort.toNat ≤ index) ∧
    ((∃ members, c.members config nodes freshId = .ok members) ↔
      c.basePort.toNat + nodes - 1 ≤ 65535) ∧
    (∀ members, c.members config nodes freshId = .ok members →
      members.map Member.address = (List.range nodes).map (fun i => some (c.addressAt i)) ∧
        ((List.range nodes).map c.addressAt).Nodup ∧
        ∀ chosen ⊆ (List.range nodes).map c.addressAt,
          (Config.Discovery.ofAddresses chosen).validate = .ok ()) ∧
    (65535 < c.basePort.toNat + nodes - 1 → nodes ≤ mostMembers →
      c.members config nodes freshId =
        .error (.startupFailed c.name (.noPort (65536 - c.basePort.toNat)))) ∧
    (mostMembers < nodes → c.members config nodes freshId = .error .capacityOverflow) ∧
    (c.running = none → nodes ≠ 0 → config.clientMode = false → config.validate = .ok () →
      c.plan config nodes freshId = c.members config nodes freshId) := by
  have size : UInt16.size = 65536 := rfl
  have base : c.basePort.toNat < UInt16.size := c.basePort.toNat_lt
  refine ⟨fun _ _ => port?_eq_some_iff, fun index => ?_, ?_, fun members given => ?_,
    fun short fits => ?_, members_of_mostMembers_lt, plan_eq⟩
  · rw [port?_eq_none_iff]
    omega
  · simp only [members_eq_ok_iff, exists_and_left, exists_eq, and_true]
    omega
  · obtain ⟨room, rfl⟩ := members_eq_ok_iff.mp given
    have apart : ((List.range nodes).map c.addressAt).Nodup :=
      List.nodup_range.map fun i j => addressAt_injective
    exact ⟨List.map_map, apart, fun chosen => ofAddresses_valid⟩
  · rw [members_of_lt fits (by omega), size]

theorem ports_never_wrap_crowded :
    let c : ManagedCluster := { name := "ignite", basePort := 65534 }
    (∃ members, c.members { consistentId := some "srv" } 2 (fun _ => "") = .ok members) ∧
      c.plan { consistentId := some "srv" } 70000 (fun _ => "") =
        .error (.startupFailed "ignite" (.noPort 2)) := by
  intro c
  have base : c.basePort.toNat = 65534 := rfl
  obtain ⟨-, -, few, -⟩ := ports_never_wrap c { consistentId := some "srv" } 2 fun _ => ""
  obtain ⟨-, -, -, -, many, -, plan⟩ := ports_never_wrap c { consistentId := some "srv" } 70000 fun _ => ""
  rw [base] at few many
  refine ⟨few.mpr (by omega), ?_⟩
  rw [plan rfl (by omega) rfl (by decide +kernel), many (by omega) (by decide)]

/-- There are far too few ports for so many members, but nobody is told which one would be the first
without. -/
theorem plan_of_countless :
    let c : ManagedCluster := { name := "ignite" }
    65535 < c.basePort.toNat + 1000000000000000000 - 1 ∧
      c.plan { consistentId := some "srv" } 1000000000000000000 (fun _ => "") =
        .error .capacityOverflow ∧
      c.plan { consistentId := some "srv" } 1000000000000000000 (fun _ => "") ≠
        .error (.startupFailed "ignite" (.noPort (65536 - c.basePort.toNat))) := by
  intro c
  have panics : c.plan { consistentId := some "srv" } 1000000000000000000 (fun _ => "") =
      .error .capacityOverflow := by
    rw [plan_eq rfl (by decide) rfl (by decide +kernel), members_of_mostMembers_lt (by decide)]
  refine ⟨by decide, panics, ?_⟩
  rw [panics]
  nofun

end ManagedCluster

theorem Launch.addresses_planned {c : ClusterId} {cluster : ManagedCluster} {config : Config.Node}
    {freshId : Nat → String} {nodes : Nat} :
    (Launch.planned c cluster config
      ((List.range nodes).map (cluster.memberAt config freshId))).addresses =
        (List.range nodes).map cluster.addressAt := by
  simp only [Launch.addresses, Launch.planned, List.map_map, List.filterMap_map]
  exact congrFun List.filterMap_eq_map _

end ClusterHarness.InProcess
