import ClusterHarness.Proofs.Cluster.Topology
import ClusterHarness.Proofs.InProcess.Turns

/-! # How members gather

What one turn makes of a launch whose members are all due: each joins in the order of the seats.
-/

namespace ClusterHarness.InProcess

open Cluster

namespace Launch

variable {x : Launch} {time now : Nat} {before after members : List Member} {m : Member}
  {config : Config.Node}

/-- The seats of members of whom some have joined and the others are due. -/
def gathering (time : Nat) (before after : List Member) : List Seat :=
  before.map (fun member => { member, stage := .joined }) ++
    after.map fun member => { member, stage := .due time }

theorem turnOfSeat_gathering (told : x.shutdown = false)
    (seats : x.seats = gathering time before (m :: after))
    (shows : x.topology.Shows config before before.length) (away : m.id ∉ before.map Member.id) :
    ∃ topology, x.turnOfSeat time before.length =
        { x with seats := gathering time (before ++ [m]) after, topology } ∧
      topology.Shows config (before ++ [m]) (before ++ [m]).length := by
  obtain ⟨topology, room, joined⟩ := shows.join away
  refine ⟨topology, ?_, ?_⟩
  · have seated : x.seats[before.length]? = some { member := m, stage := .due time } := by
      simp [seats, gathering]
    have sat : x.seats.modify before.length (fun seat => { seat with stage := .joined }) =
        gathering time (before ++ [m]) after := by
      have split := modify_append_cons (fun seat : Seat => { seat with stage := .joined })
        (before.map fun member => { member, stage := .joined })
        (after.map fun member => { member, stage := .due time }) { member := m, stage := .due time }
      rw [List.length_map] at split
      simpa [seats, gathering] using split
    simp [turnOfSeat, seated, told, room, sit, sat]
  · rw [List.length_append, List.length_singleton]
    exact joined.perm (List.perm_append_singleton m before).symm

theorem gather (told : x.shutdown = false) (seats : x.seats = gathering time before after)
    (shows : x.topology.Shows config before before.length)
    (distinct : ((before ++ after).map Member.id).Nodup) :
    ∃ topology, (List.range' before.length after.length).foldl (turnOfSeat time) x =
        { x with seats := gathering time (before ++ after) [], topology } ∧
      topology.Shows config (before ++ after) (before ++ after).length := by
  induction after generalizing x before with
  | nil =>
      rw [List.append_nil] at distinct ⊢
      refine ⟨x.topology, ?_, shows⟩
      rw [← seats]
      rfl
  | cons m after ih =>
      have away : m.id ∉ before.map Member.id := by
        intro there
        rw [List.map_append, List.map_cons] at distinct
        exact (List.nodup_append.mp distinct).2.2 _ there _ (by simp) rfl
      obtain ⟨topology, turned, joined⟩ := turnOfSeat_gathering told seats shows away
      obtain ⟨last, others, all⟩ := ih (x := { x with seats := gathering time (before ++ [m]) after, topology })
        told rfl joined (by rwa [List.append_assoc])
      refine ⟨last, ?_, by simpa using all⟩
      rw [List.length_cons, List.range'_succ, List.foldl_cons, turned]
      simpa using others

theorem turn_gathering (told : x.shutdown = false) (seats : x.seats = gathering time [] members)
    (shows : x.topology.Shows config [] 0) (distinct : (members.map Member.id).Nodup) :
    ∃ topology, x.turn time = { x with seats := gathering time members [], topology } ∧
      topology.Shows config members members.length := by
  have length : x.seats.length = members.length := by simp [seats, gathering]
  rw [turn, length, List.range_eq_range']
  exact gather told seats shows distinct

/-- Before their time the members have nothing to do, and when they have joined they stay. -/
theorem turn_waiting (told : x.shutdown = false) (seats : x.seats = gathering time before after)
    (early : now < time) : x.turn now = x := by
  refine turn_of_rests fun seat member => ?_
  rw [told]
  refine ⟨fun due => ⟨rfl, ?_⟩, fun _ => rfl⟩
  rw [seats, gathering, List.mem_append, List.mem_map, List.mem_map] at member
  rcases member with ⟨m, -, rfl⟩ | ⟨m, -, rfl⟩
  · cases due
  · cases due
    exact early

end Launch

end ClusterHarness.InProcess
