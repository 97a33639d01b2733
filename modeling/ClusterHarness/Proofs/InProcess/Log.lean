import ClusterHarness.InProcess.State
import ClusterHarness.Proofs.Cluster.Topology
import Mathlib.Data.List.Nodup
import Mathlib.Data.List.Perm.Subperm

/-! # The calls that tasks make on a topology

A topology knows its nodes by their ids only, and a leave names an id. The log of all calls knows the
tasks as well. It is never run: it says which task let a node join, and so whose node a leave removes.
-/

namespace ClusterHarness.InProcess

open Cluster

/-- A task that joins and leaves the topology of a launch: that of a member, or that of an application. -/
inductive Task where
  | seat (index : Nat)
  | run (number : RunId)
  deriving Repr, DecidableEq

/-- A call of a task, with what came of it. -/
inductive Entry where
  | joined (task : Task) (node : Member)
  | refused (task : Task)
  | left (task : Task) (id : String)
  deriving Repr, DecidableEq

namespace Entry

def task : Entry → Task
  | .joined task _ | .refused task | .left task _ => task

def joiner? : Entry → Option Task
  | .joined task _ => some task
  | _ => none

def leaver? : Entry → Option Task
  | .left task _ => some task
  | _ => none

/-- The nodes after a call, each with the task that let it join. A leave removes whatever has the id. -/
def apply (nodes : List (Task × Member)) : Entry → List (Task × Member)
  | .joined task node => nodes ++ [(task, node)]
  | .refused _ => nodes
  | .left _ id => nodes.filter fun x => x.2.id != id

end Entry

def present (log : List Entry) : List (Task × Member) := log.foldl Entry.apply []

def callsOf (task : Task) (log : List Entry) : List Entry := log.filter fun e => e.task = task

def joiners (log : List Entry) : List Task := log.filterMap Entry.joiner?

def leavers (log : List Entry) : List Task := log.filterMap Entry.leaver?

/-- Where a task stands: it has yet to join, is in the topology with its node, or has ended. -/
inductive Standing where
  | outside
  | inside (node : Member)
  | gone
  deriving Repr, DecidableEq

/-- The calls that a task has made where it stands. One that is told to end before it joins makes
none. -/
inductive Standing.Calls (task : Task) : Standing → List Entry → Prop where
  | outside : Calls task .outside []
  | inside (node : Member) : Calls task (.inside node) [.joined task node]
  | never : Calls task .gone []
  | refused : Calls task .gone [.refused task]
  | left (node : Member) : Calls task .gone [.joined task node, .left task node.id]

/-- The topology is what the calls of its tasks have made of it, and each task has left just the node
that it had let join. -/
structure Bracketed (standing : Task → Standing) (topology : Topology) (log : List Entry) : Prop where
  calls : ∀ task, (standing task).Calls task (callsOf task log)
  owner : ∀ {task : Task} {node : Member}, (task, node) ∈ present log ↔ standing task = .inside node
  members : topology.members.Perm ((present log).map Prod.snd)
  distinct : (topology.members.map Member.id).Nodup
  version : topology.version = topology.members.length + 2 * (leavers log).length
  own : ∀ {before after : List Entry} {task : Task} {id : String},
    log = before ++ .left task id :: after →
      ∃ node, node.id = id ∧ (present before).filter (fun x => x.2.id = id) = [(task, node)]

/-! ## One more call -/

section

variable {log : List Entry} {e : Entry} {task : Task}

theorem present_concat : present (log ++ [e]) = e.apply (present log) := by
  simp [present]

theorem callsOf_concat_self (h : e.task = task) : callsOf task (log ++ [e]) = callsOf task log ++ [e] := by
  simp [callsOf, h]

theorem callsOf_concat_other (h : e.task ≠ task) : callsOf task (log ++ [e]) = callsOf task log := by
  simp [callsOf, h]

theorem leavers_concat : leavers (log ++ [e]) = leavers log ++ e.leaver?.toList := by
  simp only [leavers, List.filterMap_append, List.filterMap_cons, List.filterMap_nil]
  cases e.leaver? <;> rfl

end

namespace Bracketed

variable {standing standing' : Task → Standing} {topology topology' : Topology} {log : List Entry}
  {task : Task} {node : Member}

theorem start (outside : ∀ task, standing task = .outside) (empty : topology.members = [])
    (version : topology.version = 0) : Bracketed standing topology [] where
  calls task := by rw [outside]; exact .outside
  owner := by
    intro task node
    simp [present, outside]
  members := by simp [empty, present]
  distinct := by simp [empty]
  version := by simp [empty, version, leavers]
  own h := by simp at h

/-- The ids tell the nodes apart, and with them the tasks. -/
theorem present_distinct (b : Bracketed standing topology log) :
    ((present log).map fun x => x.2.id).Nodup := by
  have ids := b.members.map Member.id
  rw [List.map_map] at ids
  exact ids.nodup b.distinct

theorem same_task (b : Bracketed standing topology log) {x y : Task × Member}
    (hx : x ∈ present log) (hy : y ∈ present log) (same : x.2.id = y.2.id) : x = y :=
  List.inj_on_of_nodup_map b.present_distinct hx hy same

/-- A call that changes no node, and perhaps how a task stands that is not there. -/
private theorem calls_concat (b : Bracketed standing topology log) {e : Entry} (task : Task)
    (own : e.task = task)
    (last : (standing' task).Calls task (callsOf task log ++ [e]))
    (others : ∀ other, other ≠ task → standing' other = standing other) (other : Task) :
    (standing' other).Calls other (callsOf other (log ++ [e])) := by
  by_cases same : other = task
  · subst same
    rw [callsOf_concat_self own]
    exact last
  · rw [callsOf_concat_other (fun h => same (h.symm.trans own)), others other same]
    exact b.calls other

/-- A call that is no leave has nothing to show for its node. -/
private theorem own_concat (b : Bracketed standing topology log) {e : Entry}
    (last : ∀ {task : Task} {id : String}, e = .left task id →
      ∃ node, node.id = id ∧ (present log).filter (fun x => x.2.id = id) = [(task, node)])
    {before after : List Entry} {task : Task} {id : String}
    (h : log ++ [e] = before ++ .left task id :: after) :
    ∃ node, node.id = id ∧ (present before).filter (fun x => x.2.id = id) = [(task, node)] := by
  rcases List.eq_nil_or_concat' after with rfl | ⟨after, final, rfl⟩
  · obtain ⟨rfl, final⟩ := List.append_inj' h rfl
    exact last (List.cons.inj final).1
  · rw [← List.cons_append, ← List.append_assoc] at h
    exact b.own (List.append_inj' h rfl).1

private theorem calls_of_outside (b : Bracketed standing topology log)
    (outside : standing task = .outside) : callsOf task log = [] := by
  have calls := b.calls task
  rw [outside] at calls
  generalize callsOf task log = made at calls ⊢
  cases calls
  rfl

private theorem calls_of_inside (b : Bracketed standing topology log)
    (inside : standing task = .inside node) : callsOf task log = [.joined task node] := by
  have calls := b.calls task
  rw [inside] at calls
  generalize callsOf task log = made at calls ⊢
  cases calls
  rfl

/-- Nothing is called, and every task stands where it stood or ends without a call. -/
theorem frame (b : Bracketed standing topology log) (members : topology'.members = topology.members)
    (version : topology'.version = topology.version)
    (stand : ∀ task, standing' task = standing task ∨
      standing task = .outside ∧ standing' task = .gone) : Bracketed standing' topology' log where
  calls task := by
    rcases stand task with same | ⟨before, now⟩
    · rw [same]
      exact b.calls task
    · rw [now, b.calls_of_outside before]
      exact .never
  owner {task node} := by
    rw [b.owner]
    rcases stand task with same | ⟨before, now⟩
    · rw [same]
    · simp [before, now]
  members := members ▸ b.members
  distinct := members ▸ b.distinct
  version := by rw [members, version, b.version]
  own := b.own

theorem join (b : Bracketed standing topology log) (outside : standing task = .outside)
    (room : topology.join node = .ok topology') (inside : standing' task = .inside node)
    (others : ∀ other, other ≠ task → standing' other = standing other) :
    Bracketed standing' topology' (log ++ [.joined task node]) where
  calls := by
    refine b.calls_concat task rfl ?_ others
    rw [inside, b.calls_of_outside outside]
    exact .inside node
  owner {other n} := by
    rw [present_concat, Entry.apply, List.mem_append, b.owner, List.mem_singleton, Prod.mk.injEq]
    by_cases same : other = task
    · subst same
      simp [outside, inside, eq_comm]
    · simp [others other same, same]
  members := by
    rw [present_concat, Entry.apply, List.map_append]
    exact (Topology.join_ok room).members.trans
      ((b.members.cons node).trans (List.perm_append_singleton node _).symm)
  distinct := by
    have joined := Topology.join_ok room
    refine (joined.members.map Member.id).nodup_iff.mpr ?_
    exact List.nodup_cons.mpr ⟨joined.away, b.distinct⟩
  version := by
    have joined := Topology.join_ok room
    have longer := joined.members.length_eq
    rw [List.length_cons] at longer
    rw [joined.version, b.version, longer, leavers_concat]
    simp [Entry.leaver?]
    omega
  own h := b.own_concat (by rintro _ _ ⟨⟩) h

theorem refuse (b : Bracketed standing topology log) (outside : standing task = .outside)
    (gone : standing' task = .gone)
    (others : ∀ other, other ≠ task → standing' other = standing other) :
    Bracketed standing' topology (log ++ [.refused task]) where
  calls := by
    refine b.calls_concat task rfl ?_ others
    rw [gone, b.calls_of_outside outside]
    exact .refused
  owner {other n} := by
    rw [present_concat, Entry.apply, b.owner]
    by_cases same : other = task
    · subst same
      simp [outside, gone]
    · rw [others other same]
  members := by
    rw [present_concat, Entry.apply]
    exact b.members
  distinct := b.distinct
  version := by
    rw [b.version, leavers_concat]
    simp [Entry.leaver?]
  own h := b.own_concat (by rintro _ _ ⟨⟩) h

/-- The node that a task has let join is there, and no other node has its id. -/
theorem own_node (b : Bracketed standing topology log) (inside : standing task = .inside node) :
    (present log).filter (fun x => x.2.id = node.id) = [(task, node)] := by
  have there := b.owner.mpr inside
  have alone : ((present log).filter fun x => x.2.id = node.id).Nodup :=
    (List.Nodup.of_map _ b.present_distinct).filter _
  refine List.perm_singleton.mp ?_
  refine (List.perm_ext_iff_of_nodup alone (List.nodup_singleton _)).mpr fun x => ?_
  rw [List.mem_filter, List.mem_singleton, decide_eq_true_eq]
  constructor
  · rintro ⟨hx, same⟩
    exact b.same_task hx there same
  · rintro rfl
    exact ⟨there, rfl⟩

theorem leave (b : Bracketed standing topology log) (inside : standing task = .inside node)
    (gone : standing' task = .gone)
    (others : ∀ other, other ≠ task → standing' other = standing other) :
    Bracketed standing' ((topology.leave? node.id).getD topology)
      (log ++ [.left task node.id]) := by
  have there : (task, node) ∈ present log := b.owner.mpr inside
  have member : node ∈ topology.members :=
    b.members.mem_iff.mpr (List.mem_map_of_mem (f := Prod.snd) there)
  obtain ⟨less, found, left⟩ := Topology.leave?_of_mem (List.mem_map_of_mem (f := Member.id) member)
  rw [found, Option.getD_some]
  have rest : less.members.Perm ((present (log ++ [.left task node.id])).map Prod.snd) := by
    rw [left.members, present_concat, Entry.apply]
    refine (b.members.filter _).trans ?_
    rw [List.filter_map]
    exact .refl _
  refine ⟨?_, ?_, rest, ?_, ?_, ?_⟩
  · refine b.calls_concat task rfl ?_ others
    rw [gone, b.calls_of_inside inside]
    exact .left node
  · intro other n
    rw [present_concat, Entry.apply, List.mem_filter, b.owner, bne_iff_ne]
    by_cases same : other = task
    · subst same
      rw [inside, gone]
      constructor
      · rintro ⟨same, apart⟩
        cases same
        exact absurd rfl apart
      · nofun
    · rw [others other same]
      refine and_iff_left_of_imp fun stands shared => same ?_
      exact congrArg Prod.fst (b.same_task (b.owner.mpr stands) there shared)
  · rw [left.members]
    exact b.distinct.sublist (List.filter_sublist.map _)
  · have split := List.length_eq_length_filter_add (l := present log) fun x => x.2.id = node.id
    have same : ((present log).filter fun x => !decide (x.2.id = node.id)) =
        (present log).filter fun x => x.2.id != node.id :=
      List.filter_congr fun x _ => by rw [bne, beq_eq_decide]
    rw [b.own_node inside, same, List.length_singleton] at split
    have before := b.members.length_eq
    have after := rest.length_eq
    rw [present_concat, Entry.apply] at after
    rw [List.length_map] at before after
    rw [left.version, b.version, leavers_concat, List.length_append]
    simp only [Entry.leaver?, Option.toList_some, List.length_singleton]
    omega
  · intro before after other id h
    refine b.own_concat ?_ h
    rintro _ _ ⟨⟩
    exact ⟨node, rfl, b.own_node inside⟩

/-! ## Who has joined and who has left -/

/-- How often a task is named in some of its calls. -/
private theorem count_calls {f : Entry → Option Task} (named : ∀ {e : Entry}, ∀ t ∈ f e, e.task = t)
    (task : Task) (log : List Entry) :
    (log.filterMap f).count task = ((callsOf task log).filterMap f).length := by
  induction log with
  | nil => rfl
  | cons e log ih =>
      by_cases same : e.task = task
      · have kept : callsOf task (e :: log) = e :: callsOf task log := by simp [callsOf, same]
        cases found : f e with
        | none => rw [kept, List.filterMap_cons_none found, List.filterMap_cons_none found, ih]
        | some t =>
            have ht := (named t found).symm.trans same
            rw [kept, List.filterMap_cons_some found, List.filterMap_cons_some found, ht,
              List.count_cons_self, List.length_cons, ih]
      · have dropped : callsOf task (e :: log) = callsOf task log := by simp [callsOf, same]
        cases found : f e with
        | none => rw [dropped, List.filterMap_cons_none found, ih]
        | some t =>
            have ht : t ≠ task := fun h => same ((named t found).trans h)
            rw [dropped, List.filterMap_cons_some found, List.count_cons_of_ne ht, ih]

theorem count_joiners (task : Task) (log : List Entry) :
    (joiners log).count task = (joiners (callsOf task log)).length := by
  refine count_calls ?_ task log
  intro e t h
  cases e <;> cases h
  rfl

theorem count_leavers (task : Task) (log : List Entry) :
    (leavers log).count task = (leavers (callsOf task log)).length := by
  refine count_calls ?_ task log
  intro e t h
  cases e <;> cases h
  rfl

theorem joiners_nodup (b : Bracketed standing topology log) : (joiners log).Nodup := by
  refine List.nodup_iff_count_le_one.mpr fun task => ?_
  have calls := b.calls task
  rw [count_joiners]
  generalize standing task = stands, callsOf task log = made at calls ⊢
  cases calls <;> simp [joiners, List.filterMap_cons, Entry.joiner?]

/-- Those who have left are those who had joined and have ended. -/
theorem leavers_perm (b : Bracketed standing topology log) :
    (leavers log).Perm ((joiners log).filter fun task => standing task = .gone) := by
  refine List.perm_iff_count.mpr fun task => ?_
  have calls := b.calls task
  by_cases gone : standing task = .gone
  · rw [List.count_filter (by simpa using gone), count_joiners, count_leavers]
    rw [gone] at calls
    generalize callsOf task log = made at calls ⊢
    cases calls <;> rfl
  · have none : task ∉ (joiners log).filter fun task => standing task = .gone := by simp [gone]
    rw [List.count_eq_zero_of_not_mem none, count_leavers]
    clear none
    generalize standing task = stands, callsOf task log = made at calls gone ⊢
    cases calls <;> first | rfl | exact absurd rfl gone

/-- The version counts every node that is there once, and twice every task that came and went. -/
theorem version_eq (b : Bracketed standing topology log) :
    topology.version = topology.members.length +
      2 * ((joiners log).filter fun task => standing task = .gone).length := by
  rw [b.version, b.leavers_perm.length_eq]

/-- A task that was refused has ended, and it made no other call. -/
theorem refused_gone (b : Bracketed standing topology log) (refused : .refused task ∈ log) :
    standing task = .gone ∧ callsOf task log = [.refused task] := by
  have member : .refused task ∈ callsOf task log := List.mem_filter.mpr ⟨refused, by simp [Entry.task]⟩
  have calls := b.calls task
  generalize standing task = stands, callsOf task log = made at calls member ⊢
  cases calls <;> simp at member ⊢

/-- A task that was let in is there with its node, or it has ended and has left once. -/
theorem joined_gone (b : Bracketed standing topology log) (joined : .joined task node ∈ log) :
    standing task = .inside node ∧ callsOf task log = [.joined task node] ∨
      standing task = .gone ∧ callsOf task log = [.joined task node, .left task node.id] := by
  have member : .joined task node ∈ callsOf task log :=
    List.mem_filter.mpr ⟨joined, by simp [Entry.task]⟩
  have calls := b.calls task
  generalize standing task = stands, callsOf task log = made at calls member ⊢
  cases calls <;> simp at member ⊢ <;> simp [member]

/-- What a leave removes is the node that the same task had let join. -/
theorem removed (b : Bracketed standing topology log) {id : String}
    (next : Bracketed standing' topology' (log ++ [.left task id])) :
    ∃ node, node.id = id ∧ (present log).filter (fun x => x.2.id = id) = [(task, node)] ∧
      callsOf task log = [.joined task node] ∧ topology.members.Perm (node :: topology'.members) := by
  obtain ⟨node, rfl, own⟩ := next.own (show log ++ [.left task id] = log ++ .left task id :: [] from rfl)
  have there : (task, node) ∈ (present log).filter fun x => x.2.id = node.id := by simp [own]
  refine ⟨node, rfl, own, b.calls_of_inside (b.owner.mp (List.mem_filter.mp there).1), ?_⟩
  have others : ((present log).filter fun x => !decide (x.2.id = node.id)) =
      present (log ++ [.left task node.id]) := by
    rw [present_concat, Entry.apply]
    exact List.filter_congr fun x _ => by rw [bne, beq_eq_decide]
  have split := List.filter_append_perm (fun x : Task × Member => decide (x.2.id = node.id)) (present log)
  rw [own, others] at split
  exact b.members.trans ((split.symm.map Prod.snd).trans (next.members.symm.cons node))

end Bracketed

end ClusterHarness.InProcess
