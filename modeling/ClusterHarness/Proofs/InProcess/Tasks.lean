import ClusterHarness.Proofs.InProcess.Beside
import ClusterHarness.Proofs.InProcess.Elapse

/-! # The schedule makes moves

Whatever the schedule lets the tasks do is a run of their own moves. So all that any order of moves
keeps is kept when the tasks take turns.
-/

namespace ClusterHarness.InProcess

/-- Whether a move is one that a task makes. -/
def Move.isOfTask : Move → Bool
  | .joinSeat .. | .leaveSeat .. | .stepRun _ => true
  | _ => false

theorem Move.isAside_of_isOfTask {m : Move} (own : m.isOfTask = true) : m.isAside = true := by
  cases m <;> first | rfl | cases own

/-- Some moves of tasks lead from one state to another. -/
def Led (s t : State) : Prop :=
  ∃ moves : List Move, (∀ m ∈ moves, m.isOfTask = true) ∧ s.afterAll? moves = some t

namespace Led

variable {s t u : State}

theorem refl (s : State) : Led s s := ⟨[], by simp, by simp [State.afterAll?]⟩

theorem trans (first : Led s t) (second : Led t u) : Led s u := by
  obtain ⟨before, own, led⟩ := first
  obtain ⟨after, own', led'⟩ := second
  refine ⟨before ++ after, ?_, State.afterAll?_append led led'⟩
  intro m member
  rcases List.mem_append.mp member with early | late
  · exact own m early
  · exact own' m late

theorem one {m : Move} (own : m.isOfTask = true) (h : s.after? m = some t) : Led s t :=
  ⟨[m], by simpa using own, by simpa [State.afterAll?] using h⟩

theorem foldl {α : Type} {f : State → α → State} (led : ∀ s a, Led s (f s a)) (l : List α) (s : State) :
    Led s (l.foldl f s) := by
  induction l generalizing s with
  | nil => exact .refl s
  | cons a l ih => exact (led s a).trans (ih (f s a))

theorem turnOfSeat (s : State) (l : LaunchId) (i : Nat) : Led s (s.turnOfSeat l i) := by
  rw [State.turnOfSeat]
  cases leave : s.leaveSeat? l i with
  | some t => exact .one (m := .leaveSeat l i) rfl leave
  | none =>
      cases join : s.joinSeat? l i with
      | some t => exact .one (m := .joinSeat l i) rfl join
      | none => exact .refl s

theorem turnOfLaunch (s : State) (l : LaunchId) : Led s (s.turnOfLaunch l) := by
  rw [State.turnOfLaunch]
  split
  · exact .foldl (fun s i => .turnOfSeat s l i) _ s
  · exact .refl s

theorem continueRun (r : RunId) (steps : Nat) (s : State) : Led s (s.continueRun r steps) := by
  induction steps generalizing s with
  | zero => exact .refl s
  | succ steps ih =>
      rw [State.continueRun]
      split
      · exact .refl s
      · split
        · rename_i t step
          exact (Led.one (m := .stepRun r) rfl step).trans (ih t)
        · exact .refl s

theorem turnOfRun (s : State) (r : RunId) : Led s (s.turnOfRun r) := by
  rw [State.turnOfRun]
  split
  · rename_i t step
    exact (Led.one (m := .stepRun r) rfl step).trans (.continueRun r _ t)
  · exact .refl s

theorem round (s : State) : Led s s.round :=
  (foldl turnOfRun _ s).trans (foldl turnOfLaunch _ _)

theorem rounds (limit : Nat) (s : State) : Led s (s.rounds limit) := by
  induction limit generalizing s with
  | zero => exact .refl s
  | succ limit ih =>
      rw [State.rounds]
      split
      · exact (Led.round s).trans (ih s.round)
      · exact .refl s

theorem settle (s : State) : Led s s.settle := .rounds _ s

theorem beside (led : Led s t) : Beside s t := by
  obtain ⟨moves, own, led⟩ := led
  exact .afterAll (fun m member => Move.isAside_of_isOfTask (own m member)) led

/-- Tasks change launches and runs, and nothing else. -/
theorem rest (led : Led s t) : t = { s with launches := t.launches, runs := t.runs } := by
  obtain ⟨moves, own, led⟩ := led
  refine State.afterAll?_invariant (P := fun u => u = { s with launches := u.launches, runs := u.runs })
    (fun m => m.isOfTask = true) rfl ?_ own led
  intro u v m before own last
  have kept : v = { u with launches := v.launches, runs := v.runs } := by
    cases Effect.of_after? last with
    | joined | turnedAway | calledOff | left | runJoined | runTurnedAway | runFinished | runUnsent
    | runSent | runJudged | runLeft => rfl
    | _ => cases own
  rw [kept, before]

end Led

/-! ## The stop of a cluster -/

namespace State

variable {s : State} {c : ClusterId} {l : LaunchId} {x : Launch}

theorem stopCluster_of_idle (idle : s.running? c = none) : stopCluster c s = .now (.ok ()) s := by
  simp [stopCluster, halt?, idle]

/-- A stop takes no time, however far the members have come, and only tasks run until it is over. -/
theorem stopCluster_of_running (running : s.running? c = some l) (found : s.launches[l]? = some x)
    (begun : ∀ seat ∈ x.seats, seat.stage ≠ .planned) :
    ∃ t, (stopCluster c s).finish = some ⟨.ok (), 0, t⟩ ∧ Led (s.halted c l x.addresses) t := by
  let u := s.halted c l x.addresses
  have halt : s.halt? c = some (l, u) := by
    simp only [halt?, running, found, bind, Option.bind]
    rfl
  by_cases deserted : u.isDeserted l = true
  · refine ⟨u, ?_, .refl u⟩
    simp [stopCluster, halt, waitFor, deserted, Course.now]
  · have led : Led u u.settle := .settle u
    have told : u.launches[l]? = some { x with shutdown := true } := by
      simp [u, halted, updateLaunch, updateCluster, found]
    obtain ⟨y, there, kept⟩ := led.beside.launches told
    have rests := u.settle_rests y (List.mem_of_getElem? there)
    have empty : u.settle.isDeserted l = true := by
      rw [isDeserted, there, List.all_eq_true]
      intro seat member
      obtain ⟨hadJoined, ended⟩ := rests.ended (kept.told rfl) (kept.begun begun) seat member
      simp [ended]
    have waited : u.await (isDeserted · l) = some u.settle := by simp [await, waitUntil, empty]
    have now : u.settle.now = u.now := by rw [led.rest]
    refine ⟨u.settle, ?_, led⟩
    simp [stopCluster, halt, waitFor, deserted, waited, now]

end State

end ClusterHarness.InProcess
