import ClusterHarness.InProcess.Schedule
import ClusterHarness.Proofs.InProcess.Effect

/-! # Turns

What a turn of the members of a launch makes of the launch alone, whatever else there is. The members of
one launch share its topology and nothing with those of another launch, so a round turns each launch
by itself.
-/

namespace ClusterHarness.InProcess

open Cluster

namespace Launch

def sit (x : Launch) (i : Nat) (stage : SeatStage) : Launch :=
  { x with seats := x.seats.modify i fun seat => { seat with stage } }

def turnOfSeat (now : Nat) (x : Launch) (i : Nat) : Launch :=
  match x.seats[i]? with
  | none => x
  | some seat =>
    match seat.stage with
    | .due time =>
      if x.shutdown then x.sit i (.ended false)
      else if time ≤ now then
        match x.topology.join seat.member with
        | .ok topology => { x.sit i .joined with topology }
        | .error _ => x.sit i (.ended false)
      else x
    | .joined =>
      if x.shutdown then
        { x.sit i (.ended true) with
          topology := (x.topology.leave? seat.member.id).getD x.topology }
      else x
    | _ => x

/-- A launch after one turn of each of its members. -/
def turn (now : Nat) (x : Launch) : Launch :=
  (List.range x.seats.length).foldl (turnOfSeat now) x

def dues (x : Launch) : List Nat := x.seats.filterMap State.dueTime?

end Launch

theorem filterMap_modify_sublist {α β : Type} {f : α → α} {g : α → Option β} (h : ∀ a, g (f a) = none)
    (l : List α) (i : Nat) : ((l.modify i f).filterMap g).Sublist (l.filterMap g) := by
  induction l generalizing i with
  | nil => simp
  | cons a l ih =>
      cases i with
      | zero =>
          rw [List.modify_zero_cons, List.filterMap_cons_none (h a)]
          exact (List.sublist_cons_self a l).filterMap g
      | succ i =>
          rw [List.modify_succ_cons]
          cases found : g a with
          | none => simpa only [List.filterMap_cons_none found] using ih i
          | some b => simpa only [List.filterMap_cons_some found] using (ih i).cons_cons b

/-! ## What a turn leaves to do -/

/-- Whether the task of a member has nothing to do at a time, told to leave or not. -/
def Seat.Rests (now : Nat) (told : Bool) (seat : Seat) : Prop :=
  (∀ {time : Nat}, seat.stage = .due time → told = false ∧ now < time) ∧
    (seat.stage = .joined → told = false)

namespace Launch

variable {now : Nat} {x : Launch} {i : Nat}

/-- Whether no member has anything to do at a time. -/
def Rests (now : Nat) (x : Launch) : Prop := ∀ seat ∈ x.seats, seat.Rests now x.shutdown

/-- The member whose turn it is has nothing to do, or it joins or ends. -/
theorem turnOfSeat_cases (now : Nat) (x : Launch) (i : Nat) :
    (x.turnOfSeat now i = x ∧ ∀ seat, x.seats[i]? = some seat → seat.Rests now x.shutdown) ∨
      ∃ stage topology, x.turnOfSeat now i = { x.sit i stage with topology } ∧
        stage ≠ .planned ∧ (∀ time, stage ≠ .due time) ∧ (stage = .joined → x.shutdown = false) := by
  cases seated : x.seats[i]? with
  | none => exact .inl ⟨by simp [turnOfSeat, seated], by simp⟩
  | some seat =>
      cases stage : seat.stage with
      | planned | ended =>
          refine .inl ⟨by simp [turnOfSeat, seated, stage], ?_⟩
          rintro _ ⟨⟩
          exact ⟨by simp [stage], by simp [stage]⟩
      | due time =>
          by_cases told : x.shutdown = true
          · exact .inr ⟨.ended false, x.topology, by simp [turnOfSeat, sit, seated, stage, told], by simp⟩
          by_cases late : time ≤ now
          · cases room : x.topology.join seat.member with
            | error e =>
                exact .inr ⟨.ended false, x.topology,
                  by simp [turnOfSeat, sit, seated, stage, told, late, room], by simp⟩
            | ok topology =>
                exact .inr ⟨.joined, topology,
                  by simp [turnOfSeat, sit, seated, stage, told, late, room], by simp [told]⟩
          · refine .inl ⟨by simp [turnOfSeat, seated, stage, told, late], ?_⟩
            rintro _ ⟨⟩
            rw [Bool.not_eq_true] at told
            refine ⟨fun due => ?_, by simp [stage]⟩
            cases stage.symm.trans due
            exact ⟨told, Nat.lt_of_not_le late⟩
      | joined =>
          by_cases told : x.shutdown = true
          · exact .inr ⟨.ended true, (x.topology.leave? seat.member.id).getD x.topology,
              by simp [turnOfSeat, sit, seated, stage, told], by simp⟩
          · refine .inl ⟨by simp [turnOfSeat, seated, stage, told], ?_⟩
            rintro _ ⟨⟩
            exact ⟨by simp [stage], fun _ => by simpa using told⟩

theorem turnOfSeat_of_rests (rests : x.Rests now) : x.turnOfSeat now i = x := by
  cases seated : x.seats[i]? with
  | none => simp [turnOfSeat, seated]
  | some seat =>
      have idle := rests seat (List.mem_of_getElem? seated)
      cases stage : seat.stage with
      | planned | ended => simp [turnOfSeat, seated, stage]
      | due time =>
          obtain ⟨told, early⟩ := idle.1 stage
          simp [turnOfSeat, seated, stage, told, early]
      | joined => simp [turnOfSeat, seated, stage, idle.2 stage]

/-- A turn does nothing when there is nothing to do. -/
theorem turn_of_rests (rests : x.Rests now) : x.turn now = x := by
  rw [turn]
  generalize List.range x.seats.length = members
  induction members with
  | nil => rfl
  | cons i members ih => rw [List.foldl_cons, turnOfSeat_of_rests rests, ih]

theorem turnOfSeat_shutdown : (x.turnOfSeat now i).shutdown = x.shutdown := by
  obtain ⟨same, -⟩ | ⟨stage, topology, same, -⟩ := turnOfSeat_cases now x i <;> rw [same]
  rfl

theorem turnOfSeat_length : (x.turnOfSeat now i).seats.length = x.seats.length := by
  obtain ⟨same, -⟩ | ⟨stage, topology, same, -⟩ := turnOfSeat_cases now x i <;> rw [same]
  exact List.length_modify ..

theorem turnOfSeat_self {seat : Seat} (h : (x.turnOfSeat now i).seats[i]? = some seat) :
    seat.Rests now x.shutdown := by
  obtain ⟨same, rests⟩ | ⟨stage, topology, same, -, due, joined⟩ := turnOfSeat_cases now x i
  · exact rests seat (same ▸ h)
  · rw [same] at h
    simp only [sit, List.getElem?_modify_eq, Option.map_eq_map, Option.map_eq_some_iff] at h
    obtain ⟨old, -, rfl⟩ := h
    exact ⟨fun h => absurd h (due _), joined⟩

theorem turnOfSeat_other {k : Nat} (other : i ≠ k) :
    (x.turnOfSeat now i).seats[k]? = x.seats[k]? := by
  obtain ⟨same, -⟩ | ⟨stage, topology, same, -⟩ := turnOfSeat_cases now x i <;> rw [same]
  exact List.getElem?_modify_ne _ _ other

/-- After a turn of all members nothing is left to do at that time. -/
theorem turn_rests (now : Nat) (x : Launch) : (x.turn now).Rests now := by
  have front : ∀ n, ((List.range n).foldl (turnOfSeat now) x).shutdown = x.shutdown ∧
      ((List.range n).foldl (turnOfSeat now) x).seats.length = x.seats.length ∧
      ∀ k < n, ∀ seat, ((List.range n).foldl (turnOfSeat now) x).seats[k]? = some seat →
        seat.Rests now x.shutdown := by
    intro n
    induction n with
    | zero => simp
    | succ n ih =>
        obtain ⟨told, length, rests⟩ := ih
        rw [List.range_succ, List.foldl_append, List.foldl_cons, List.foldl_nil]
        refine ⟨turnOfSeat_shutdown.trans told, turnOfSeat_length.trans length, ?_⟩
        intro k hk seat h
        by_cases same : n = k
        · subst same
          exact told ▸ turnOfSeat_self h
        · rw [turnOfSeat_other same] at h
          exact rests k (by omega) seat h
  obtain ⟨told, length, rests⟩ := front x.seats.length
  intro seat member
  obtain ⟨k, h⟩ := List.mem_iff_getElem?.mp member
  have hk := (List.getElem?_eq_some_iff.mp h).1
  rw [turn, length] at hk
  rw [turn, told]
  exact rests k hk seat h

/-- What holds of a launch and is kept by the turn of any member holds after a turn of all. -/
theorem turn_invariant {P : Launch → Prop} (start : P x)
    (step : ∀ (y : Launch) (i : Nat), P y → P (y.turnOfSeat now i)) : P (x.turn now) := by
  rw [turn]
  generalize List.range x.seats.length = members
  induction members generalizing x with
  | nil => exact start
  | cons i members ih => exact ih (step x i start)

theorem dues_turn : (x.turn now).dues.Sublist x.dues := by
  refine turn_invariant (P := fun y => y.dues.Sublist x.dues) (.refl _) fun y i sub => ?_
  obtain ⟨same, -⟩ | ⟨stage, topology, same, -, due, -⟩ := turnOfSeat_cases now y i <;> rw [same]
  · exact sub
  · refine List.Sublist.trans (filterMap_modify_sublist (fun seat => ?_) y.seats i) sub
    simp only [State.dueTime?]

theorem Rests.lt_of_due (rests : x.Rests now) {time : Nat} (due : time ∈ x.dues) : now < time := by
  obtain ⟨seat, member, found⟩ := List.mem_filterMap.mp due
  simp only [State.dueTime?] at found
  split at found
  · rename_i stage
    cases found
    exact ((rests seat member).1 stage).2
  · cases found

/-- Once they are told to leave, members that rest have ended. -/
theorem Rests.ended (rests : x.Rests now) (told : x.shutdown = true)
    (begun : ∀ seat ∈ x.seats, seat.stage ≠ .planned) :
    ∀ seat ∈ x.seats, ∃ hadJoined, seat.stage = .ended hadJoined := by
  intro seat member
  have idle := rests seat member
  rw [told] at idle
  cases stage : seat.stage with
  | planned => exact absurd stage (begun seat member)
  | due time => cases (idle.1 stage).1
  | joined => cases idle.2 stage
  | ended hadJoined => exact ⟨hadJoined, rfl⟩

end Launch

/-! ## The turns of all launches -/

theorem modify_congr {α : Type} {f g : α → α} {l : List α} {i : Nat} {a : α} (found : l[i]? = some a)
    (same : f a = g a) : l.modify i f = l.modify i g := by
  apply List.ext_getElem?
  intro k
  by_cases hk : i = k
  · subst hk
    simp [found, same]
  · simp [hk]

theorem foldl_modify_range {α : Type} (f : α → α) (l : List α) :
    (List.range l.length).foldl (fun l k => l.modify k f) l = l.map f := by
  have front : ∀ n k, ((List.range n).foldl (fun l k => l.modify k f) l)[k]? =
      if k < n then l[k]?.map f else l[k]? := by
    intro n k
    induction n with
    | zero => simp
    | succ n ih =>
        rw [List.range_succ, List.foldl_append, List.foldl_cons, List.foldl_nil, List.getElem?_modify, ih]
        by_cases same : n = k
        · subst same
          simp
        · have : k < n + 1 ↔ k < n := by omega
          simp [same, this]
  apply List.ext_getElem?
  intro k
  rw [front, List.getElem?_map]
  split
  · rfl
  · rename_i beyond
    rw [List.getElem?_eq_none (Nat.le_of_not_lt beyond), Option.map_none]

namespace State

variable {s : State} {l : LaunchId}

theorem updateLaunch_of_none {f : Launch → Launch} (missing : s.launches[l]? = none) :
    s.updateLaunch l f = s := by
  rw [updateLaunch, List.modify_eq_self (List.getElem?_eq_none_iff.mp missing)]

theorem updateLaunch_congr {f g : Launch → Launch} {x : Launch} (found : s.launches[l]? = some x)
    (same : f x = g x) : s.updateLaunch l f = s.updateLaunch l g := by
  rw [updateLaunch, updateLaunch, modify_congr found same]

theorem updateLaunch_self {f : Launch → Launch} {x : Launch} (found : s.launches[l]? = some x)
    (same : f x = x) : s.updateLaunch l f = s := by
  rw [updateLaunch_congr (g := id) found same, updateLaunch, List.modify_id]

theorem updateLaunch_updateLaunch {f g : Launch → Launch} :
    (s.updateLaunch l f).updateLaunch l g = s.updateLaunch l (g ∘ f) := by
  rw [updateLaunch, updateLaunch, updateLaunch, List.modify_modify_eq]

theorem turnOfSeat_eq (s : State) (l : LaunchId) (i : Nat) :
    s.turnOfSeat l i = s.updateLaunch l fun x => x.turnOfSeat s.now i := by
  cases found : s.launches[l]? with
  | none =>
      rw [updateLaunch_of_none found]
      simp [turnOfSeat, leaveSeat?, joinSeat?, found]
  | some x =>
      cases seated : x.seats[i]? with
      | none =>
          rw [updateLaunch_self found (by simp [Launch.turnOfSeat, seated])]
          simp [turnOfSeat, leaveSeat?, joinSeat?, found, seated]
      | some seat =>
          cases stage : seat.stage with
          | planned | ended =>
              rw [updateLaunch_self found (by simp [Launch.turnOfSeat, seated, stage])]
              simp [turnOfSeat, leaveSeat?, joinSeat?, found, seated, stage]
          | due time =>
              by_cases told : x.shutdown = true
              · have turn : s.turnOfSeat l i = s.setSeat l i (.ended false) := by
                  simp [turnOfSeat, leaveSeat?, found, seated, stage, told]
                rw [turn]
                exact updateLaunch_congr found
                  (by simp [Launch.turnOfSeat, Launch.sit, seated, stage, told])
              by_cases now : time ≤ s.now
              · cases room : x.topology.join seat.member with
                | error e =>
                    have turn : s.turnOfSeat l i = s.setSeat l i (.ended false) := by
                      simp [turnOfSeat, leaveSeat?, joinSeat?, found, seated, stage, told, now, room]
                    rw [turn]
                    exact updateLaunch_congr found
                      (by simp [Launch.turnOfSeat, Launch.sit, seated, stage, told, now, room])
                | ok topology =>
                    have turn : s.turnOfSeat l i = (s.setTopology l topology).setSeat l i .joined := by
                      simp [turnOfSeat, leaveSeat?, joinSeat?, found, seated, stage, told, now, room]
                    rw [turn]
                    refine updateLaunch_updateLaunch.trans (updateLaunch_congr found ?_)
                    simp [Launch.turnOfSeat, Launch.sit, seated, stage, told, now, room]
              · rw [updateLaunch_self found (by simp [Launch.turnOfSeat, seated, stage, told, now])]
                simp [turnOfSeat, leaveSeat?, joinSeat?, found, seated, stage, told, now]
          | joined =>
              by_cases told : x.shutdown = true
              · have turn : s.turnOfSeat l i =
                    (s.setTopology l ((x.topology.leave? seat.member.id).getD x.topology)).setSeat l i
                      (.ended true) := by
                  simp [turnOfSeat, leaveSeat?, found, seated, stage, told]
                rw [turn]
                refine updateLaunch_updateLaunch.trans (updateLaunch_congr found ?_)
                simp [Launch.turnOfSeat, Launch.sit, seated, stage, told]
              · rw [updateLaunch_self found (by simp [Launch.turnOfSeat, seated, stage, told])]
                simp [turnOfSeat, leaveSeat?, joinSeat?, found, seated, stage, told]

theorem turnOfLaunch_eq (s : State) (l : LaunchId) :
    s.turnOfLaunch l = s.updateLaunch l (Launch.turn s.now) := by
  have seats : ∀ (members : List Nat) (s : State),
      members.foldl (fun s i => s.turnOfSeat l i) s =
        s.updateLaunch l fun x => members.foldl (Launch.turnOfSeat s.now) x := by
    intro members
    induction members with
    | nil =>
        intro s
        exact (congrArg (fun launches => { s with launches }) (List.modify_id l s.launches)).symm
    | cons i members ih =>
        intro s
        rw [List.foldl_cons, ih, turnOfSeat_eq, updateLaunch_updateLaunch]
        rfl
  rw [turnOfLaunch]
  cases found : s.launches[l]? with
  | none => exact (updateLaunch_of_none found).symm
  | some x =>
      simp only [seats]
      exact updateLaunch_congr found rfl

/-- When every launch has its turn, each is turned by itself. -/
theorem turnOfLaunches_eq (s : State) :
    (List.range s.launches.length).foldl turnOfLaunch s =
      { s with launches := s.launches.map (Launch.turn s.now) } := by
  have turns : ∀ (launches : List LaunchId) (s : State), launches.foldl turnOfLaunch s =
      { s with launches := launches.foldl (fun xs l => xs.modify l (Launch.turn s.now)) s.launches } := by
    intro launches
    induction launches with
    | nil => exact fun _ => rfl
    | cons l launches ih =>
        intro s
        rw [List.foldl_cons, ih, turnOfLaunch_eq]
        rfl
  rw [turns, foldl_modify_range]

end State

end ClusterHarness.InProcess
