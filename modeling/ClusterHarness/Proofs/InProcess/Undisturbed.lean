import ClusterHarness.Proofs.Compute.Remote
import ClusterHarness.Proofs.InProcess.Elapse
import ClusterHarness.Proofs.InProcess.Membership

/-! # A run that nobody disturbs

While a run goes on, others may do anything at any time. As long as they leave the nodes of its cluster as
they are, the run finds there what it has left there itself, whoever has had a turn in between.
-/

namespace ClusterHarness.InProcess

open Cluster Compute

/-- The nodes in the topology of a launch. -/
def State.nodes? (s : State) (l : LaunchId) : Option (List Member) :=
  s.launches[l]?.map fun x => x.topology.members

/-- A state after so many steps of a run, between which everybody else has left the nodes of a launch as
they were. -/
inductive Undisturbed (l : LaunchId) (r : RunId) (s : State) : Nat → State → Prop where
  | start : Undisturbed l r s 0 s
  | own {n t u} (before : Undisturbed l r s n t) (step : t.stepRun? r = some u) :
      Undisturbed l r s (n + 1) u
  | other {n t u} {m : Move} (before : Undisturbed l r s n t) (other : m ≠ .stepRun r)
      (move : t.after? m = some u) (keeps : u.nodes? l = t.nodes? l) : Undisturbed l r s n u

/-! ## The nodes of one topology -/

/-- The same nodes at the same version. It may be the turn of another server. -/
structure SameNodes (t u : Topology) : Prop where
  name : u.name = t.name
  config : u.config = t.config
  version : u.version = t.version
  members : u.members = t.members
  announced : u.announced = t.announced

namespace SameNodes

variable {t u : Topology}

theorem refl (t : Topology) : SameNodes t t := ⟨rfl, rfl, rfl, rfl, rfl⟩

theorem picked (t : Topology) (picks : UInt64) : SameNodes t { t with picks } :=
  ⟨rfl, rfl, rfl, rfl, rfl⟩

theorem snapshot (same : SameNodes t u) : u.snapshot = t.snapshot := by
  rw [Topology.snapshot, Topology.snapshot, same.version, same.members]

/-- No node joins without being one more. -/
theorem of_join {node : Member} (joined : t.join node = .ok u) (members : u.members = t.members) :
    SameNodes t u := by
  have more := (Topology.join_ok joined).members.length_eq
  rw [members, List.length_cons] at more
  exact absurd more (Nat.ne_of_lt (Nat.lt_succ_self _))

/-- No node leaves without being missed. -/
theorem of_leave {id : String} (members : ((t.leave? id).getD t).members = t.members) :
    SameNodes t ((t.leave? id).getD t) := by
  by_cases there : id ∈ t.members.map Member.id
  · obtain ⟨v, gone, left⟩ := Topology.leave?_of_mem there
    obtain ⟨m, member, same⟩ := List.mem_map.mp there
    rw [gone, Option.getD_some, left.members, List.filter_eq_self] at members
    exact absurd same (bne_iff_ne.mp (members m member))
  · rw [Topology.leave?_of_not_mem there]
    exact .refl t

end SameNodes

/-! ## What others leave as it is -/

/-- A run has not gone on, and its launch has the nodes that it had. -/
structure Spared (l : LaunchId) (r : RunId) (s t : State) : Prop where
  run : ∀ {x : Run}, s.runs[r]? = some x → t.runs[r]? = some x
  topology : ∀ {x : Launch}, s.launches[l]? = some x →
    ∃ y, t.launches[l]? = some y ∧ SameNodes x.topology y.topology

namespace Spared

variable {s t : State} {l : LaunchId} {r : RunId}

/-- A move of somebody else, after which the nodes are the same. -/
theorem of_move {m : Move} (other : m ≠ .stepRun r) (h : s.after? m = some t)
    (keeps : t.nodes? l = s.nodes? l) : Spared l r s t := by
  have modified {k : LaunchId} {f : Launch → Launch} (launches : t.launches = s.launches.modify k f)
      (same : ∀ x, s.launches[k]? = some x → (f x).topology.members = x.topology.members →
        SameNodes x.topology (f x).topology) {x : Launch} (found : s.launches[l]? = some x) :
      ∃ y, t.launches[l]? = some y ∧ SameNodes x.topology y.topology := by
    rw [State.nodes?, State.nodes?, launches, List.getElem?_modify, found] at keeps
    rw [launches, List.getElem?_modify, found]
    by_cases here : k = l
    · subst here
      refine ⟨f x, by simp, same x found ?_⟩
      simpa using keeps
    · exact ⟨x, by simp [here], .refl _⟩
  have apart {k : RunId} (own : m = .stepRun k) {f : Run → Run} {x : Run}
      (found : s.runs[r]? = some x) : (s.runs.modify k f)[r]? = some x := by
    refine (List.getElem?_modify_ne f s.runs ?_).trans found
    rintro rfl
    exact other own
  cases Effect.of_after? h with
  | addCluster | addApplication | runTaken | passed => exact ⟨id, fun found => ⟨_, found, .refl _⟩⟩
  | accepted =>
      refine ⟨id, fun {x} found => ⟨x, ?_, .refl _⟩⟩
      exact (List.getElem?_append_left (List.getElem?_eq_some_iff.mp found).1).trans found
  | runStarted =>
      refine ⟨fun found => ?_, fun found => ⟨_, found, .refl _⟩⟩
      exact (List.getElem?_append_left (List.getElem?_eq_some_iff.mp found).1).trans found
  | bound | refused | rendered | unrendered | installed | live | abandoned | halted | turnedAway
  | calledOff => exact ⟨id, modified rfl fun _ _ _ => .refl _⟩
  | joined found seated due now room =>
      refine ⟨id, modified State.launches_setTopology_setSeat fun x hx => ?_⟩
      cases found.symm.trans hx
      exact .of_join room
  | left found seated told there =>
      refine ⟨id, modified State.launches_setTopology_setSeat fun x hx => ?_⟩
      cases found.symm.trans hx
      exact .of_leave
  | runJoined found target stage room =>
      refine ⟨apart rfl, modified rfl fun x hx => ?_⟩
      cases target.symm.trans hx
      exact .of_join room
  | runSent found target stage sent =>
      refine ⟨apart rfl, modified rfl fun x hx _ => ?_⟩
      cases target.symm.trans hx
      obtain ⟨rfl, -⟩ := Shipment.send_ok sent
      exact .picked _ _
  | runLeft found target stage =>
      refine ⟨apart rfl, modified rfl fun x hx => ?_⟩
      cases target.symm.trans hx
      exact .of_leave
  | runTurnedAway | runFinished | runUnsent | runJudged =>
      exact ⟨apart rfl, fun found => ⟨_, found, .refl _⟩⟩

end Spared

/-- What the own steps of a run keep, whatever else they change, holds in the end. -/
theorem Undisturbed.invariant {l : LaunchId} {r : RunId} {s t : State} {P : Nat → State → Prop} {n : Nat}
    (undisturbed : Undisturbed l r s n t) (start : P 0 s)
    (own : ∀ {n t u}, P n t → t.stepRun? r = some u → P (n + 1) u)
    (spared : ∀ {n t u}, P n t → Spared l r t u → P n u) : P n t := by
  induction undisturbed with
  | start => exact start
  | own _ step ih => exact own ih step
  | other _ other move keeps ih => exact spared ih (.of_move other move keeps)

end ClusterHarness.InProcess
