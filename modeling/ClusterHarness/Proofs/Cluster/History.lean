import ClusterHarness.Proofs.Cluster.Topology
import Mathlib.Data.List.Induction
import Mathlib.Data.List.Nodup

/-! # What a history of calls makes of a topology

A topology has come from nothing by calls that let nodes join and leave. Its version, its nodes, what it
shows and what it has announced are four views of the calls that took effect, and each call keeps them
together.
-/

namespace ClusterHarness.Cluster

/-- A call that lets a node join or leave. -/
inductive Change where
  | join (member : Member)
  | leave (id : String)
  deriving Repr, DecidableEq

namespace Change

def isJoin : Change → Bool
  | .join _ => true
  | .leave _ => false

def joins (changes : List Change) : Nat := changes.countP isJoin

def leaves (changes : List Change) : Nat := changes.countP fun c => !c.isJoin

section

variable {changes : List Change} {m : Member} {id : String}

theorem joins_join : joins (changes ++ [.join m]) = joins changes + 1 := by
  simp [joins, isJoin]

theorem joins_leave : joins (changes ++ [.leave id]) = joins changes := by
  simp [joins, isJoin]

theorem leaves_join : leaves (changes ++ [.join m]) = leaves changes := by
  simp [leaves, isJoin]

theorem leaves_leave : leaves (changes ++ [.leave id]) = leaves changes + 1 := by
  simp [leaves, isJoin]

end

/-- Whether a node has joined and has not left since. -/
def Stays (m : Member) (changes : List Change) : Prop :=
  ∃ before after, changes = before ++ .join m :: after ∧ .leave m.id ∉ after

theorem stays_concat {m : Member} {changes : List Change} {c : Change} :
    Stays m (changes ++ [c]) ↔ c = .join m ∨ c ≠ .leave m.id ∧ Stays m changes := by
  constructor
  · rintro ⟨before, after, split, stays⟩
    rcases List.eq_nil_or_concat' after with rfl | ⟨after, last, rfl⟩
    · exact .inl (List.cons.inj (List.append_inj' split rfl).2).1
    · rw [← List.cons_append, ← List.append_assoc] at split
      obtain ⟨front, same⟩ := List.append_inj' split rfl
      cases same
      simp only [List.mem_append, List.mem_singleton, not_or] at stays
      exact .inr ⟨Ne.symm stays.2, before, after, front, stays.1⟩
  · rintro (rfl | ⟨other, before, after, rfl, stays⟩)
    · exact ⟨changes, [], rfl, by simp⟩
    · exact ⟨before, after ++ [c], by simp, by simp [stays, Ne.symm other]⟩

end Change

namespace Topology

open Change

variable {t u : Topology} {c : Change} {history : List Change}

/-- The topology after a call, if the call takes effect. -/
def change? (t : Topology) : Change → Option Topology
  | .join m => (t.join m).toOption
  | .leave id => t.leave? id

/-- The topology after a call. A call that takes no effect leaves it as it is. -/
def after (t : Topology) (c : Change) : Topology := (t.change? c).getD t

def afterAll (t : Topology) (history : List Change) : Topology := history.foldl after t

/-- The calls of a history that take effect, in their order. -/
def effective (t : Topology) : List Change → List Change
  | [] => []
  | c :: rest => (if (t.change? c).isSome then [c] else []) ++ (t.after c).effective rest

theorem afterAll_concat : t.afterAll (history ++ [c]) = (t.afterAll history).after c := by
  simp [afterAll]

theorem effective_concat : t.effective (history ++ [c]) =
    t.effective history ++ if ((t.afterAll history).change? c).isSome then [c] else [] := by
  induction history generalizing t with
  | nil =>
      simp only [List.nil_append, effective, List.append_nil]
      rfl
  | cons d history ih =>
      rw [List.cons_append, effective, effective, ih, List.append_assoc]
      rfl

/-! ## One call -/

/-- A call takes effect when a node joins whose id is free, or one leaves that is there. -/
theorem change?_isSome : (t.change? c).isSome = true ↔ match c with
    | .join m => m.id ∉ t.members.map Member.id
    | .leave id => id ∈ t.members.map Member.id := by
  cases c with
  | join m =>
      by_cases there : t.hasMember m.id = true
      · simp [change?, join, there, Except.toOption, ← hasMember_iff]
      · simp [change?, join, there, Except.toOption, ← hasMember_iff]
  | leave id =>
      by_cases there : t.hasMember id = true
      · simp [change?, leave?, there, ← hasMember_iff]
      · simp [change?, leave?, there, ← hasMember_iff]

theorem after_of_none (h : t.change? c = none) : t.after c = t := by
  rw [after, h, Option.getD_none]

theorem version_of_change? (h : t.change? c = some u) : u.version = t.version + 1 := by
  cases c with
  | join m =>
      cases joined : t.join m with
      | error e => simp [change?, joined, Except.toOption] at h
      | ok v =>
          simp only [change?, joined, Except.toOption, Option.some.injEq] at h
          exact h ▸ (join_ok joined).version
  | leave id =>
      have there := change?_isSome.mp (Option.isSome_of_eq_some h)
      obtain ⟨v, found, left⟩ := leave?_of_mem there
      cases h.symm.trans found
      exact left.version

theorem version_le_afterAll (t : Topology) (history : List Change) :
    t.version ≤ (t.afterAll history).version := by
  induction history using List.reverseRecOn with
  | nil => exact Nat.le_refl _
  | append_singleton history c ih =>
      rw [afterAll_concat, after]
      cases h : (t.afterAll history).change? c with
      | none => exact ih
      | some u =>
          rw [Option.getD_some, version_of_change? h]
          omega

/-! ## All calls -/

/-- What a topology has to do with the calls that took effect, from the first on. -/
structure Accounted (name : String) (t : Topology) (done : List Change) : Prop where
  name : t.name = name
  version : t.version = joins done + leaves done
  length : t.members.length + leaves done = joins done
  distinct : (t.members.map Member.id).Nodup
  members : ∀ m, m ∈ t.members ↔ Stays m done
  announced : t.announced = t.snapshot

namespace Accounted

variable {name : String} {done : List Change}

theorem start (name : String) (config : Config.Node) : Accounted name { name, config } [] where
  name := rfl
  version := rfl
  length := rfl
  distinct := .nil
  members m := by simp [Stays]
  announced := rfl

theorem join (accounted : Accounted name t done) {m : Member} (h : t.join m = .ok u) :
    Accounted name u (done ++ [.join m]) := by
  have joined := join_ok h
  refine ⟨joined.name.trans accounted.name, ?_, ?_, ?_, ?_, joined.announced⟩
  · rw [joined.version, accounted.version, joins_join, leaves_join, Nat.add_right_comm]
  · rw [joined.members.length_eq, List.length_cons, joins_join, leaves_join, Nat.add_right_comm,
      accounted.length]
  · refine (joined.members.map Member.id).nodup_iff.mpr ?_
    exact List.nodup_cons.mpr ⟨joined.away, accounted.distinct⟩
  · intro other
    rw [joined.members.mem_iff, List.mem_cons, accounted.members, stays_concat]
    simp [eq_comm]

theorem leave (accounted : Accounted name t done) {id : String}
    (there : id ∈ t.members.map Member.id) (h : t.leave? id = some u) :
    Accounted name u (done ++ [.leave id]) := by
  obtain ⟨v, found, left⟩ := leave?_of_mem there
  cases h.symm.trans found
  refine ⟨left.name.trans accounted.name, ?_, ?_, ?_, ?_, left.announced⟩
  · rw [left.version, accounted.version, joins_leave, leaves_leave, Nat.add_assoc]
  · -- Of the nodes that were there just one had the id.
    have one : t.members.countP (fun m => m.id == id) = 1 := by
      have count := List.count_eq_one_of_mem accounted.distinct there
      rwa [List.count, List.countP_map] at count
    have rest : (t.members.filter fun m => !(m.id == id)) = u.members := left.members.symm
    have split := List.length_eq_length_filter_add (l := t.members) fun m => m.id == id
    rw [rest, ← List.countP_eq_length_filter, one] at split
    have length := accounted.length
    rw [joins_leave, leaves_leave]
    omega
  · rw [left.members]
    exact accounted.distinct.sublist (List.filter_sublist.map _)
  · intro m
    rw [left.members, List.mem_filter, bne_iff_ne, accounted.members, stays_concat]
    simp [and_comm, eq_comm]

theorem afterAll (name : String) (config : Config.Node) (history : List Change) :
    Accounted name (Topology.afterAll { name, config } history)
      (effective { name, config } history) := by
  induction history using List.reverseRecOn with
  | nil => exact start name config
  | append_singleton history c ih =>
      rw [afterAll_concat, effective_concat]
      generalize Topology.afterAll { name, config } history = t at ih
      cases h : t.change? c with
      | none =>
          rw [after_of_none h]
          simpa using ih
      | some u =>
          rw [after, h, Option.getD_some, Option.isSome_some, if_pos rfl]
          cases c with
          | join m =>
              cases joined : t.join m with
              | error e => simp [change?, joined, Except.toOption] at h
              | ok v =>
                  simp only [change?, joined, Except.toOption, Option.some.injEq] at h
                  exact ih.join (h ▸ joined)
          | leave id => exact ih.leave (change?_isSome.mp (Option.isSome_of_eq_some h)) h

theorem snapshot_members (accounted : Accounted name t done) :
    t.snapshot.members + leaves done = joins done := by
  have split := List.length_eq_countP_add_countP (l := t.members) Member.client
  have length := accounted.length
  simp only [Snapshot.members, snapshot, Bool.not_eq_true, Bool.decide_eq_false] at split ⊢
  omega

end Accounted

/-- The version of a topology counts the joins and the leaves that took effect since it was new. Its nodes
are just those that have joined and have not left since, it shows how many of them are servers and
clients, and that is what it has announced last. A call that takes effect makes the next version, and
one that does not changes nothing at all. -/
theorem history_accounts (name : String) (config : Config.Node) (history : List Change) :
    let t := afterAll { name, config } history
    let done := effective { name, config } history
    t.version = joins done + leaves done ∧
    (t.members.map Member.id).Nodup ∧
    (∀ m, m ∈ t.members ↔
      ∃ before after, done = before ++ .join m :: after ∧ .leave m.id ∉ after) ∧
    t.snapshot.servers + t.snapshot.clients + leaves done = joins done ∧
    t.snapshot.clients = t.members.countP Member.client ∧
    (∀ c u, t.change? c = some u → u.version = t.version + 1 ∧ t.after c = u) ∧
    (∀ m, m.id ∉ t.members.map Member.id → ∃ u, t.join m = .ok u) ∧
    (∀ m, m.id ∈ t.members.map Member.id → t.after (.join m) = t ∧
      t.join m = .error (.startupFailed name (.alreadyInTopology m.id))) ∧
    (∀ id, id ∈ t.members.map Member.id → ∃ u, t.leave? id = some u) ∧
    (∀ id, id ∉ t.members.map Member.id → t.after (.leave id) = t ∧ t.leave? id = none) ∧
    t.announced = t.snapshot ∧
    (∀ more, t.version ≤ (t.afterAll more).version) ∧
    t.version % 2 = t.snapshot.members % 2 ∧
    (t.version = t.snapshot.members ↔ leaves done = 0) := by
  intro t done
  have accounted : Accounted name t done := .afterAll name config history
  have version := accounted.version
  have members := accounted.snapshot_members
  refine ⟨version, accounted.distinct, accounted.members, members, rfl, ?_, ?_, ?_, ?_, ?_,
    accounted.announced, version_le_afterAll t, by omega, by omega⟩
  · intro c u h
    exact ⟨version_of_change? h, by rw [after, h, Option.getD_some]⟩
  · intro m away
    exact join_of_away away
  · intro m there
    have refused := join_of_mem there
    exact ⟨after_of_none (by simp [change?, refused, Except.toOption]), accounted.name ▸ refused⟩
  · intro id there
    obtain ⟨u, left, -⟩ := leave?_of_mem there
    exact ⟨u, left⟩
  · intro id away
    have absent := leave?_of_not_mem away
    exact ⟨after_of_none absent, absent⟩

end Topology

end ClusterHarness.Cluster
