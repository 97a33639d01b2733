import ClusterHarness.Proofs.InProcess.Membership

/-! # What goes on beside a start

While a start call stands still, other calls and all tasks go on. As long as none of them starts or stops
a cluster, the bindings stay as they are, every cluster stays as it is, and the launch of the call goes
forward at most: its members join and end, and the call itself sees that all are there.
-/

namespace ClusterHarness.InProcess

open Cluster

/-- Whether a move is none of those that start or stop a cluster. -/
def Move.isAside : Move → Bool
  | .bind _ | .render _ | .install _ | .abandon _ | .halt _ => false
  | _ => true

/-- How far the task of a member has come, in numbers. -/
def SeatStage.rank : SeatStage → Nat
  | .planned => 0
  | .due _ => 1
  | .joined => 2
  | .ended _ => 3

theorem SeatStage.rank_pos {stage : SeatStage} : 0 < stage.rank ↔ stage ≠ .planned := by
  cases stage <;> simp [rank]

/-- The same member, whose task has not gone back. -/
structure Seat.Advanced (old new : Seat) : Prop where
  member : new.member = old.member
  stage : old.stage.rank ≤ new.stage.rank

/-- The same launch, none of whose members has gone back. -/
structure Launch.Advanced (old new : Launch) : Prop where
  cluster : new.cluster = old.cluster
  told : old.shutdown = true → new.shutdown = true
  length : new.seats.length = old.seats.length
  seats : ∀ {i : Nat} {seat : Seat}, new.seats[i]? = some seat →
    ∃ before : Seat, old.seats[i]? = some before ∧ before.Advanced seat

namespace Launch.Advanced

variable {x y z : Launch}

theorem refl (x : Launch) : x.Advanced x :=
  ⟨rfl, id, rfl, fun found => ⟨_, found, rfl, Nat.le_refl _⟩⟩

theorem trans (first : x.Advanced y) (second : y.Advanced z) : x.Advanced z where
  cluster := second.cluster.trans first.cluster
  told h := second.told (first.told h)
  length := second.length.trans first.length
  seats found := by
    obtain ⟨between, found, late⟩ := second.seats found
    obtain ⟨before, found, early⟩ := first.seats found
    exact ⟨before, found, late.member.trans early.member, Nat.le_trans early.stage late.stage⟩

/-- A member goes on, and the topology may change with it. -/
theorem sit {i : Nat} {seat : Seat} {stage : SeatStage} (seated : x.seats[i]? = some seat)
    (forward : seat.stage.rank ≤ stage.rank) (topology : Topology) :
    x.Advanced { x with
      topology, seats := x.seats.modify i fun seat => { seat with stage } } where
  cluster := rfl
  told := id
  length := List.length_modify ..
  seats {k other} found := by
    rcases of_getElem?_modify seated found with ⟨rfl, rfl⟩ | found
    · exact ⟨seat, seated, rfl, forward⟩
    · exact ⟨other, found, rfl, Nat.le_refl _⟩

theorem members (advanced : x.Advanced y) : y.seats.map Seat.member = x.seats.map Seat.member := by
  apply List.ext_getElem?
  intro i
  rw [List.getElem?_map, List.getElem?_map]
  cases found : y.seats[i]? with
  | none =>
      have beyond := List.getElem?_eq_none_iff.mp found
      rw [List.getElem?_eq_none (advanced.length ▸ beyond)]
  | some seat =>
      obtain ⟨before, there, same⟩ := advanced.seats found
      rw [there, Option.map_some, Option.map_some, same.member]

theorem addresses (advanced : x.Advanced y) : y.addresses = x.addresses := by
  have same := congrArg (List.filterMap Member.address) advanced.members
  simpa only [Launch.addresses, List.filterMap_map, Function.comp_def] using same

theorem begun (advanced : x.Advanced y) (begun : ∀ seat ∈ x.seats, seat.stage ≠ .planned) :
    ∀ seat ∈ y.seats, seat.stage ≠ .planned := by
  intro seat member
  obtain ⟨i, found⟩ := List.mem_iff_getElem?.mp member
  obtain ⟨before, there, later⟩ := advanced.seats found
  have early := SeatStage.rank_pos.mpr (begun before (List.mem_of_getElem? there))
  exact SeatStage.rank_pos.mp (Nat.lt_of_lt_of_le early later.stage)

end Launch.Advanced

/-- A launch that has gone on while its start call stood still, or saw that all members are there. -/
structure Launch.Kept (old new : Launch) : Prop extends Launch.Advanced old new where
  phase : new.phase = old.phase ∨ old.phase = .waiting ∧ new.phase = .live

namespace Launch.Kept

variable {x y z : Launch}

theorem refl (x : Launch) : x.Kept x := ⟨.refl x, .inl rfl⟩

theorem trans (first : x.Kept y) (second : y.Kept z) : x.Kept z where
  toAdvanced := first.toAdvanced.trans second.toAdvanced
  phase := by
    rcases first.phase with same | ⟨waiting, live⟩
    · rw [← same]
      exact second.phase
    · rcases second.phase with same | ⟨still, -⟩
      · exact .inr ⟨waiting, same.trans live⟩
      · cases live.symm.trans still

end Launch.Kept

/-- Nothing has been bound or released, and no launch has gone back. -/
structure Beside (s t : State) : Prop where
  network : t.network = s.network
  clusters : ∀ {c : ClusterId} {cluster : ManagedCluster}, s.clusters[c]? = some cluster →
    t.clusters[c]? = some cluster
  launches : ∀ {l : LaunchId} {x : Launch}, s.launches[l]? = some x →
    ∃ y, t.launches[l]? = some y ∧ x.Kept y

namespace Beside

variable {s t u : State}

theorem refl (s : State) : Beside s s := ⟨rfl, id, fun found => ⟨_, found, .refl _⟩⟩

theorem trans (first : Beside s t) (second : Beside t u) : Beside s u where
  network := second.network.trans first.network
  clusters found := second.clusters (first.clusters found)
  launches found := by
    obtain ⟨y, found, early⟩ := first.launches found
    obtain ⟨z, found, late⟩ := second.launches found
    exact ⟨z, found, early.trans late⟩

/-- One launch goes on. -/
theorem modify {l : LaunchId} {f : Launch → Launch} (network : t.network = s.network)
    (clusters : t.clusters = s.clusters) (launches : t.launches = s.launches.modify l f)
    (kept : ∀ x, s.launches[l]? = some x → x.Kept (f x)) : Beside s t where
  network := network
  clusters found := clusters ▸ found
  launches {k x} found := by
    rw [launches, List.getElem?_modify, found]
    by_cases same : l = k
    · subst same
      exact ⟨f x, by simp, kept x found⟩
    · exact ⟨x, by simp [same], .refl x⟩

theorem of_same (network : t.network = s.network) (clusters : t.clusters = s.clusters)
    (launches : t.launches = s.launches) : Beside s t :=
  .modify network clusters (l := 0) (f := id) (by rw [launches, List.modify_id]) fun x _ => .refl x

/-- A task calls on the topology that it has joined or would join. -/
private theorem call {l : LaunchId} {topology : Topology} (network : t.network = s.network)
    (clusters : t.clusters = s.clusters)
    (launches : t.launches = s.launches.modify l fun x => { x with topology }) : Beside s t :=
  .modify network clusters launches fun x _ => ⟨⟨rfl, id, rfl, (Launch.Advanced.refl x).seats⟩, .inl rfl⟩

private theorem sit {l : LaunchId} {x : Launch} {i : Nat} {seat : Seat} {stage : SeatStage}
    {topology : Topology} (found : s.launches[l]? = some x) (seated : x.seats[i]? = some seat)
    (forward : seat.stage.rank ≤ stage.rank) (network : t.network = s.network)
    (clusters : t.clusters = s.clusters)
    (launches : t.launches = s.launches.modify l fun x =>
      { x with topology, seats := x.seats.modify i fun seat => { seat with stage } }) :
    Beside s t := by
  refine .modify network clusters launches fun y hy => ?_
  cases found.symm.trans hy
  exact ⟨.sit seated forward topology, .inl rfl⟩

theorem step {m : Move} (aside : m.isAside = true) (h : s.after? m = some t) : Beside s t := by
  cases Effect.of_after? h with
  | bound | refused | rendered | unrendered | installed | abandoned | halted => cases aside
  | addCluster =>
      refine ⟨rfl, fun found => ?_, fun found => ⟨_, found, .refl _⟩⟩
      exact (List.getElem?_append_left (List.getElem?_eq_some_iff.mp found).1).trans found
  | accepted =>
      refine ⟨rfl, id, fun {l x} found => ⟨x, ?_, .refl x⟩⟩
      exact (List.getElem?_append_left (List.getElem?_eq_some_iff.mp found).1).trans found
  | live found phase =>
      refine .modify rfl rfl rfl fun y hy => ?_
      cases found.symm.trans hy
      exact ⟨⟨rfl, id, rfl, (Launch.Advanced.refl _).seats⟩, .inr ⟨phase, rfl⟩⟩
  | joined found seated due =>
      exact .sit found seated (by simp [due, SeatStage.rank]) rfl rfl
        State.launches_setTopology_setSeat
  | left found seated told there =>
      exact .sit found seated (by simp [there, SeatStage.rank]) rfl rfl
        State.launches_setTopology_setSeat
  | turnedAway found seated due =>
      refine .modify rfl rfl rfl fun y hy => ?_
      cases found.symm.trans hy
      exact ⟨.sit seated (by simp [due, SeatStage.rank]) _, .inl rfl⟩
  | calledOff found seated told due =>
      refine .modify rfl rfl rfl fun y hy => ?_
      cases found.symm.trans hy
      exact ⟨.sit seated (by simp [due, SeatStage.rank]) _, .inl rfl⟩
  | runJoined | runSent | runLeft => exact .call rfl rfl rfl
  | addApplication | runStarted | runTaken | runTurnedAway | runFinished | runUnsent | runJudged
  | passed => exact .of_same rfl rfl rfl

theorem afterAll {moves : List Move} (aside : ∀ m ∈ moves, m.isAside = true)
    (h : s.afterAll? moves = some t) : Beside s t :=
  State.afterAll?_invariant (P := Beside s) (fun m => m.isAside = true) (.refl s)
    (fun before aside last => before.trans (.step aside last)) aside h

end Beside

end ClusterHarness.InProcess
