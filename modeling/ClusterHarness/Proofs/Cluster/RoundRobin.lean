import ClusterHarness.Proofs.Cluster.Topology
import Mathlib.Data.List.Rotate
import Mathlib.Data.String.Basic

/-! # Servers in their turn

The nodes of a topology stand in the order of their ids, whoever has joined and left before. As long as
that goes on no more, a node that picks servers goes round them in this order, from wherever the picks of
others have left the turn, and so every server gets its share.
-/

namespace ClusterHarness.Cluster.Topology

/-! ## The order of the nodes -/

/-- A topology that has been made of a new one by joins, leaves and picks. -/
inductive Arises : Topology → Prop where
  | new (name : String) (config : Config.Node) : Arises { name, config }
  | join {t u m} (before : Arises t) (joined : t.join m = .ok u) : Arises u
  | leave {t u id} (before : Arises t) (left : t.leave? id = some u) : Arises u
  | pick {t u m asking} (before : Arises t) (picked : t.nextRemoteServer? asking = some (m, u)) :
      Arises u

variable {t u : Topology} {m : Member} {asking : String}

def InOrder (members : List Member) : Prop := members.Pairwise fun m n => m.id < n.id

theorem InOrder.insertMember {members : List Member} (ordered : InOrder members)
    (away : m.id ∉ members.map Member.id) : InOrder (insertMember m members) := by
  induction members with
  | nil => exact List.pairwise_singleton _ _
  | cons other rest ih =>
      obtain ⟨first, others⟩ := List.pairwise_cons.mp ordered
      simp only [List.map_cons, List.mem_cons, not_or] at away
      rw [Topology.insertMember]
      split
      · rename_i less
        refine List.pairwise_cons.mpr ⟨fun n there => ?_, ordered⟩
        rcases List.mem_cons.mp there with rfl | there
        · exact less
        · exact lt_trans less (first n there)
      · rename_i notLess
        refine List.pairwise_cons.mpr ⟨fun n there => ?_, ih others away.2⟩
        rcases List.mem_cons.mp ((insertMember_perm m rest).mem_iff.mp there) with rfl | there
        · exact lt_of_le_of_ne (not_lt.mp notLess) (Ne.symm away.1)
        · exact first n there

theorem Arises.inOrder (arises : t.Arises) : InOrder t.members := by
  induction arises with
  | new name config => exact .nil
  | join before joined ih =>
      rw [members_of_join joined]
      exact ih.insertMember (join_ok joined).away
  | @leave t u id before left ih =>
      by_cases there : id ∈ t.members.map Member.id
      · obtain ⟨v, found, gone⟩ := leave?_of_mem there
        cases left.symm.trans found
        rw [gone.members]
        exact ih.filter _
      · cases left.symm.trans (leave?_of_not_mem there)
  | pick before picked ih =>
      rw [(nextRemoteServer?_eq_some picked).2]
      exact ih

theorem InOrder.remoteServers (ordered : InOrder t.members) :
    ((t.remoteServers asking).map Member.id).Pairwise (· < ·) :=
  List.pairwise_map.mpr (ordered.filter _)

/-! ## One pick after the other -/

/-- The servers that a node picks one after the other, so many at most, and what the picks leave. -/
def turns (asking : String) : Nat → Topology → List Member × Topology
  | 0, t => ([], t)
  | n + 1, t =>
    match t.nextRemoteServer? asking with
    | none => ([], t)
    | some (m, t) =>
      let (more, t) := turns asking n t
      (m :: more, t)

theorem turns_of_none (none : t.nextRemoteServer? asking = none) (n : Nat) :
    turns asking n t = ([], t) := by
  cases n with
  | zero => rfl
  | succ n => simp only [turns, none]

theorem turns_add (n k : Nat) (t : Topology) :
    turns asking (n + k) t = ((turns asking n t).1 ++ (turns asking k (turns asking n t).2).1,
      (turns asking k (turns asking n t).2).2) := by
  induction n generalizing t with
  | zero => rw [Nat.zero_add]; rfl
  | succ n ih =>
      cases picked : t.nextRemoteServer? asking with
      | none => simp only [turns_of_none picked, List.nil_append]
      | some next =>
          rw [Nat.add_right_comm]
          simp only [turns, picked, ih, List.cons_append]

/-- The turn is with the first server of the round that begins where the count of picks says. -/
theorem nextRemoteServer?_of_rotate {rest : List Member}
    (round : (t.remoteServers asking).rotate t.picks.toNat = m :: rest) :
    t.nextRemoteServer? asking = some (m, { t with picks := t.picks + 1 }) := by
  have some : 0 < (t.remoteServers asking).length := by
    rw [← List.length_rotate, round]
    exact Nat.succ_pos _
  have turn := List.head?_rotate (Nat.mod_lt t.picks.toNat some)
  rw [List.rotate_mod, round, List.head?_cons] at turn
  simp only [nextRemoteServer?, ← turn, Option.map_some]

/-- While the count goes up, a node picks the servers of a round as they come. -/
theorem turns_of_rotate {front back : List Member} {count : Nat}
    (round : (t.remoteServers asking).rotate count = front ++ back)
    (counted : ∀ j < front.length, (t.picks + .ofNat j).toNat = count + j) :
    turns asking front.length t = (front, { t with picks := t.picks + .ofNat front.length }) := by
  induction front generalizing t count back with
  | nil => simp [turns]
  | cons m rest ih =>
      have now : t.picks.toNat = count := by simpa using counted 0 (Nat.succ_pos _)
      have picked := nextRemoteServer?_of_rotate (now ▸ round)
      have later (j : Nat) : t.picks + 1 + .ofNat j = t.picks + .ofNat (j + 1) := by
        rw [UInt64.ofNat_add, UInt64.add_assoc, UInt64.add_comm (UInt64.ofNat j)]
        rfl
      have others : ({ t with picks := t.picks + 1 } : Topology).remoteServers asking =
          t.remoteServers asking := rfl
      have next : (t.remoteServers asking).rotate (count + 1) = rest ++ (back ++ [m]) := by
        rw [← List.rotate_rotate, round]
        simp
      have tail := ih (t := { t with picks := t.picks + 1 }) (others ▸ next) fun j less => by
        rw [later, counted (j + 1) (Nat.succ_lt_succ less)]
        omega
      simp only [List.length_cons, turns, picked, tail, later]

/-- Whole rounds are all alike. -/
theorem turns_rounds {count k : Nat}
    (counted : ∀ j < k * (t.remoteServers asking).length, (t.picks + .ofNat j).toNat = count + j) :
    turns asking (k * (t.remoteServers asking).length) t =
      ((List.replicate k ((t.remoteServers asking).rotate count)).flatten,
        { t with picks := t.picks + .ofNat (k * (t.remoteServers asking).length) }) := by
  induction k with
  | zero => simp [turns]
  | succ k ih =>
      let servers := t.remoteServers asking
      let v : Topology := { t with picks := t.picks + .ofNat (k * servers.length) }
      rw [Nat.succ_mul] at counted ⊢
      have rounds : turns asking (k * servers.length) t =
          ((List.replicate k (servers.rotate count)).flatten, v) :=
        ih fun j less => counted j (Nat.lt_add_right _ less)
      have round : (v.remoteServers asking).rotate (count + k * servers.length) =
          servers.rotate count ++ [] := by
        have whole := List.rotate_length_mul (servers.rotate count) k
        rw [List.length_rotate, List.rotate_rotate, Nat.mul_comm] at whole
        rw [List.append_nil]
        exact whole
      have later (j : Nat) : v.picks + .ofNat j = t.picks + .ofNat (k * servers.length + j) := by
        rw [UInt64.ofNat_add, ← UInt64.add_assoc]
      have last := turns_of_rotate round fun j less => by
        rw [List.length_rotate] at less
        rw [later, counted _ (Nat.add_lt_add_left less _), Nat.add_assoc]
      rw [List.length_rotate] at last
      rw [turns_add, rounds, last, later, List.replicate_succ', List.flatten_append,
        List.flatten_singleton]

/-- A pick falls on a server other than the node that asks and passes the turn on, and without such a
server nothing changes. While nobody joins or leaves, a node that picks goes round these servers in the
order of their ids, whoever has picked before, and so in whole rounds gets each of them once a round. -/
theorem turns_are_fair (arises : t.Arises) (asking : String) :
    let servers := t.remoteServers asking
    (∀ m, m ∈ servers ↔ m ∈ t.members ∧ m.client = false ∧ m.id ≠ asking) ∧
    (servers.map Member.id).Pairwise (· < ·) ∧
    (t.nextRemoteServer? asking = none ↔ ∀ m ∈ t.members, m.client = true ∨ m.id = asking) ∧
    (t.nextRemoteServer? asking = none → ∀ n, turns asking n t = ([], t)) ∧
    (∀ m u, t.nextRemoteServer? asking = some (m, u) →
      m ∈ t.members ∧ m.client = false ∧ m.id ≠ asking ∧ u = { t with picks := t.picks + 1 }) ∧
    ∀ k, t.picks.toNat + k * servers.length ≤ 2 ^ 64 →
      let (picked, last) := turns asking (k * servers.length) t
      picked = (List.replicate k (servers.rotate t.picks.toNat)).flatten ∧
      (∀ m ∈ servers, picked.count m = k) ∧
      last = { t with picks := t.picks + .ofNat (k * servers.length) } := by
  intro servers
  have ordered : (servers.map Member.id).Pairwise (· < ·) := arises.inOrder.remoteServers
  refine ⟨fun m => mem_remoteServers, ordered, ?_, turns_of_none, ?_, ?_⟩
  · rw [nextRemoteServer?_eq_none, remoteServers, List.filter_eq_nil_iff]
    refine forall₂_congr fun m _ => ?_
    cases m.client <;> simp
  · intro m u picked
    obtain ⟨there, left⟩ := nextRemoteServer?_eq_some picked
    obtain ⟨there, serves, other⟩ := mem_remoteServers.mp there
    exact ⟨there, serves, other, left⟩
  · intro k room
    have counted : ∀ j < k * servers.length, (t.picks + .ofNat j).toNat = t.picks.toNat + j := by
      intro j less
      rw [UInt64.toNat_add, UInt64.toNat_ofNat']
      omega
    rw [turns_rounds counted]
    refine ⟨rfl, fun m there => ?_, rfl⟩
    have once : (servers.rotate t.picks.toNat).count m = 1 := by
      have distinct : servers.Nodup := .of_map Member.id (ordered.imp ne_of_lt)
      rw [(List.rotate_perm _ _).count_eq, List.count_eq_one_of_mem distinct there]
    rw [List.count_flatten, List.map_replicate, once, List.sum_replicate_nat, Nat.mul_one]

/-- Two servers and a client. One of the servers, which sees only the other, has picked it three times. -/
def turned : Topology where
  name := "ignite"
  config := {}
  version := 3
  members := [{ id := "a" }, { id := "b", client := true }, { id := "c" }]
  announced := ⟨3, 2, 1⟩
  picks := 3

theorem turned_arises : turned.Arises := by
  have joined : Arises { turned with picks := 0 } :=
    .join (m := { id := "b", client := true }) (.join (m := { id := "a" })
      (.join (m := { id := "c" }) (.new "ignite" {}) rfl) rfl) rfl
  have turn (n : UInt64) (before : Arises { turned with picks := n }) :
      Arises { turned with picks := n + 1 } := by
    have round : (({ turned with picks := n } : Topology).remoteServers "c").rotate n.toNat =
        [{ id := "a" }] := List.rotate_singleton _ _
    exact .pick before (nextRemoteServer?_of_rotate round)
  exact turn 2 (turn 1 (turn 0 joined))

theorem turns_are_fair_turned :
    (turns "b" 4 turned).1.map Member.id = ["c", "a", "c", "a"] ∧
      (turns "b" 4 turned).1.count { id := "a" } = 2 := by
  obtain ⟨-, -, -, -, -, fair⟩ := turns_are_fair turned_arises "b"
  obtain ⟨round, share, -⟩ := fair 2 (by decide)
  exact ⟨congrArg (List.map Member.id) round, share { id := "a" } (by decide)⟩

end ClusterHarness.Cluster.Topology
