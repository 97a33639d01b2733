import ClusterHarness.InProcess.Services
import ClusterHarness.Proofs.InProcess.Turns

/-! # While time passes

What a launch sees of a state in which all tasks go on. Applications that are attached to other launches
never touch it, so what becomes of it are turns of its own members, however much else there is to do. A
time at which something is due is left behind with each leap of the clock, which bounds the leaps.
-/

namespace ClusterHarness.InProcess

open Cluster

/-- What others have done in the meantime, and `change` has become of one launch. -/
structure Went (l : LaunchId) (change : Launch → Launch) (s t : State) : Prop where
  rest : t = { s with now := t.now, launches := t.launches, runs := t.runs }
  launch : t.launches[l]? = s.launches[l]?.map change
  attached : t.runs.map Run.launch = s.runs.map Run.launch
  runs : ∀ {r : RunId} {x : Run}, s.runs[r]? = some x → x.launch = l → t.runs[r]? = some x
  dues : t.dueTimes.Sublist s.dueTimes

namespace Went

variable {s t u : State} {l : LaunchId} {f g : Launch → Launch}

theorem refl (l : LaunchId) (s : State) : Went l id s s :=
  ⟨rfl, by rw [Option.map_id, id], rfl, fun h _ => h, .refl _⟩

theorem trans (first : Went l f s t) (second : Went l g t u) : Went l (g ∘ f) s u where
  rest := by
    rw [second.rest, first.rest]
  launch := by rw [second.launch, first.launch, Option.map_map]
  attached := second.attached.trans first.attached
  runs h attached := second.runs (first.runs h attached) attached
  dues := second.dues.trans first.dues

theorem congr (went : Went l f s t) (same : ∀ x, s.launches[l]? = some x → f x = g x) :
    Went l g s t where
  rest := went.rest
  launch := by
    rw [went.launch]
    cases found : s.launches[l]? with
    | none => rfl
    | some x => rw [Option.map_some, Option.map_some, same x found]
  attached := went.attached
  runs := went.runs
  dues := went.dues

theorem found (went : Went l f s t) {x : Launch} (h : s.launches[l]? = some x) :
    t.launches[l]? = some (f x) := by
  rw [went.launch, h, Option.map_some]

theorem clock (l : LaunchId) (s : State) (now : Nat) : Went l id s { s with now } :=
  ⟨rfl, by rw [Option.map_id, id], rfl, fun h _ => h, .refl _⟩

theorem run {r : RunId} {x : Run} (h : s.runs[r]? = some x) (other : x.launch ≠ l) {f : Run → Run}
    (keeps : ∀ y, (f y).launch = y.launch) : Went l id s (s.updateRun r f) where
  rest := rfl
  launch := by rw [Option.map_id, id]; rfl
  attached := map_modify_of_same s.runs r keeps
  runs {k y} hy attached := by
    by_cases same : r = k
    · subst same
      cases h.symm.trans hy
      exact absurd attached other
    · exact (List.getElem?_modify_ne _ _ same).trans hy
  dues := .refl _

theorem topology {k : LaunchId} (other : k ≠ l) (topology : Topology) :
    Went l id s (s.setTopology k topology) where
  rest := rfl
  launch := by
    rw [Option.map_id, id]
    exact List.getElem?_modify_ne _ _ other
  attached := rfl
  runs h _ := h
  dues := by
    have same : (s.setTopology k topology).dueTimes = s.dueTimes := by
      rw [State.dueTimes, State.dueTimes, List.flatMap, List.flatMap]
      exact congrArg List.flatten
        (map_modify_of_same (f := fun x => { x with topology }) s.launches k fun _ => rfl)
    exact same ▸ .refl _

end Went

/-- Whether a run leaves a launch alone: it is attached to another one, or it has ended. -/
def State.LeavesAlone (s : State) (l : LaunchId) (r : RunId) : Prop :=
  ∀ x : Run, s.runs[r]? = some x → x.launch = l → ∃ failure, x.stage = .ended failure

theorem Went.leavesAlone {s t : State} {l : LaunchId} {r : RunId} {f : Launch → Launch}
    (went : Went l f s t) (alone : s.LeavesAlone l r) : t.LeavesAlone l r := by
  intro y hy attached
  have launches := congrArg (·[r]?) went.attached
  simp only [List.getElem?_map, hy, Option.map_some] at launches
  cases hx : s.runs[r]? with
  | none => simp [hx] at launches
  | some x =>
      rw [hx, Option.map_some, Option.some.injEq] at launches
      have same := went.runs hx (launches.symm.trans attached)
      cases hy.symm.trans same
      exact alone _ hx attached

namespace State

variable {s t : State} {l : LaunchId} {r : RunId}

theorem stepRun?_went (alone : s.LeavesAlone l r) (h : s.stepRun? r = some t) :
    Went l id s t ∧ t.now = s.now := by
  have other {x : Run} (found : s.runs[r]? = some x) (going : ∀ failure, x.stage ≠ .ended failure) :
      x.launch ≠ l := by
    intro attached
    obtain ⟨failure, ended⟩ := alone x found attached
    exact going failure ended
  have passed {x : Run} (found : s.runs[r]? = some x) (apart : x.launch ≠ l) (topology : Topology)
      {f : Run → Run} (keeps : ∀ y, (f y).launch = y.launch) :
      Went l id s ((s.setTopology x.launch topology).updateRun r f) := by
    have first : Went l id s (s.setTopology x.launch topology) := .topology apart topology
    have same : (s.setTopology x.launch topology).runs[r]? = some x := found
    exact first.trans (.run same apart keeps)
  cases Effect.of_stepRun? h with
  | runJoined found target stage room =>
      exact ⟨passed found (other found (by simp [stage])) _ fun _ => rfl, rfl⟩
  | runTurnedAway found target stage taken =>
      exact ⟨.run found (other found (by simp [stage])) fun _ => rfl, rfl⟩
  | runFinished found target stage =>
      exact ⟨.run found (other found (by simp [stage])) fun _ => rfl, rfl⟩
  | runUnsent found target stage failed =>
      exact ⟨.run found (other found (by simp [stage])) fun _ => rfl, rfl⟩
  | runSent found target stage sent =>
      exact ⟨passed found (other found (by simp [stage])) _ fun _ => rfl, rfl⟩
  | runJudged found target stage =>
      exact ⟨.run found (other found (by simp [stage])) fun _ => rfl, rfl⟩
  | runLeft found target stage =>
      exact ⟨passed found (other found (by simp [stage])) _ fun _ => rfl, rfl⟩

theorem continueRun_went (alone : s.LeavesAlone l r) (steps : Nat) :
    Went l id s (continueRun r steps s) ∧ (continueRun r steps s).now = s.now := by
  induction steps generalizing s with
  | zero => exact ⟨.refl l s, rfl⟩
  | succ steps ih =>
      rw [continueRun]
      split
      · exact ⟨.refl l s, rfl⟩
      · split
        · rename_i t step
          obtain ⟨went, now⟩ := stepRun?_went alone step
          obtain ⟨more, later⟩ := ih (went.leavesAlone alone)
          exact ⟨went.trans more, later.trans now⟩
        · exact ⟨.refl l s, rfl⟩

theorem turnOfRun_went (alone : s.LeavesAlone l r) :
    Went l id s (s.turnOfRun r) ∧ (s.turnOfRun r).now = s.now := by
  rw [turnOfRun]
  split
  · rename_i t step
    obtain ⟨went, now⟩ := stepRun?_went alone step
    obtain ⟨more, later⟩ := continueRun_went (went.leavesAlone alone)
      (ExceptionGeneration.trials.length + 2)
    exact ⟨went.trans more, later.trans now⟩
  · exact ⟨.refl l s, rfl⟩

theorem turnOfRuns_went (runs : List RunId) (alone : ∀ r ∈ runs, s.LeavesAlone l r) :
    Went l id s (runs.foldl turnOfRun s) ∧ (runs.foldl turnOfRun s).now = s.now := by
  induction runs generalizing s with
  | nil => exact ⟨.refl l s, rfl⟩
  | cons r runs ih =>
      obtain ⟨went, now⟩ := turnOfRun_went (alone r (by simp))
      obtain ⟨more, later⟩ := ih fun k hk => went.leavesAlone (alone k (by simp [hk]))
      exact ⟨went.trans more, later.trans now⟩

/-- Whether no member has anything to do now. -/
def Rests (s : State) : Prop := ∀ x ∈ s.launches, x.Rests s.now

theorem turnOfLaunches_went (l : LaunchId) (s : State) :
    Went l (Launch.turn s.now) s { s with launches := s.launches.map (Launch.turn s.now) } where
  rest := rfl
  launch := List.getElem?_map ..
  attached := rfl
  runs h _ := h
  dues := by
    simp only [dueTimes]
    induction s.launches with
    | nil => exact .refl _
    | cons x launches ih => exact List.Sublist.append Launch.dues_turn ih

theorem round_rests (s : State) : s.round.Rests := by
  simp only [round]
  generalize (List.range s.runs.length).foldl turnOfRun s = u
  rw [turnOfLaunches_eq]
  intro y hy
  obtain ⟨x, -, rfl⟩ := List.mem_map.mp hy
  exact Launch.turn_rests u.now x

theorem round_went (quiet : ∀ r, s.LeavesAlone l r) :
    Went l (Launch.turn s.now) s s.round ∧ s.round.now = s.now := by
  obtain ⟨runs, now⟩ := turnOfRuns_went (List.range s.runs.length) fun r _ => quiet r
  simp only [round]
  generalize (List.range s.runs.length).foldl turnOfRun s = u at runs now
  rw [turnOfLaunches_eq]
  exact ⟨now ▸ runs.trans (turnOfLaunches_went l u), now⟩

theorem rests_of_not_busy (idle : s.isBusy = false) : s.Rests := by
  intro x hx seat hseat
  have quiet : s.seatIsReady x seat = false := by
    have seats := (Bool.or_eq_false_iff.mp idle).2
    rw [List.any_eq_false] at seats
    have members := seats x hx
    rw [Bool.not_eq_true, List.any_eq_false] at members
    simpa using members seat hseat
  constructor
  · intro time due
    simpa [seatIsReady, due] using quiet
  · intro joined
    simpa [seatIsReady, joined] using quiet

theorem rounds_rests (rests : s.Rests) (limit : Nat) : (s.rounds limit).Rests := by
  induction limit generalizing s with
  | zero => exact rests
  | succ limit ih =>
      rw [rounds]
      split
      · exact ih (round_rests s)
      · exact rests

theorem settle_rests (s : State) : s.settle.Rests := by
  rw [settle, roundLimit, rounds]
  split
  · exact rounds_rests (round_rests s) _
  · rename_i idle
    exact rests_of_not_busy (by simpa using idle)

theorem rounds_went_of_rests (quiet : ∀ r, s.LeavesAlone l r) (rests : s.Rests) (limit : Nat) :
    Went l id s (s.rounds limit) ∧ (s.rounds limit).now = s.now := by
  induction limit generalizing s with
  | zero => exact ⟨.refl l s, rfl⟩
  | succ limit ih =>
      rw [rounds]
      split
      · obtain ⟨went, now⟩ := round_went quiet
        have still : Went l id s s.round :=
          went.congr fun x hx => Launch.turn_of_rests (rests x (List.mem_of_getElem? hx))
        obtain ⟨more, later⟩ := ih (fun r => still.leavesAlone (quiet r)) (round_rests s)
        exact ⟨still.trans more, later.trans now⟩
      · exact ⟨.refl l s, rfl⟩

/-- When all tasks have done what they can, a launch that all runs leave alone has had one turn. -/
theorem settle_went (quiet : ∀ r, s.LeavesAlone l r) :
    Went l (Launch.turn s.now) s s.settle ∧ s.settle.now = s.now := by
  rw [settle, roundLimit, rounds]
  split
  · obtain ⟨went, now⟩ := round_went quiet
    obtain ⟨more, later⟩ := rounds_went_of_rests (fun r => went.leavesAlone (quiet r))
      (round_rests s) (ExceptionGeneration.trials.length + 2)
    exact ⟨went.trans more, later.trans now⟩
  · rename_i idle
    rw [Bool.not_eq_true] at idle
    refine ⟨(Went.refl l s).congr fun x hx => ?_, rfl⟩
    exact (Launch.turn_of_rests (rests_of_not_busy idle x (List.mem_of_getElem? hx))).symm

theorem Rests.lt_of_due (rests : s.Rests) {time : Nat} (due : time ∈ s.dueTimes) : s.now < time := by
  obtain ⟨x, hx, due⟩ := List.mem_flatMap.mp due
  exact (rests x hx).lt_of_due due

/-- The next time at which something is due lies ahead, and no due time lies before it. -/
theorem nextDue?_eq_some {time : Nat} :
    s.nextDue? = some time ↔ time ∈ s.dueTimes ∧ ∀ other ∈ s.dueTimes, time ≤ other :=
  List.min?_eq_some_iff

theorem nextDue?_of_mem {time : Nat} (due : time ∈ s.dueTimes) : ∃ next, s.nextDue? = some next := by
  cases found : s.nextDue? with
  | some next => exact ⟨next, rfl⟩
  | none =>
      rw [nextDue?, List.min?_eq_none_iff] at found
      rw [found] at due
      cases due

def ahead (s : State) : List Nat := s.dueTimes.filter fun time => s.now < time

/-- A leap to the next due time leaves that time behind. -/
theorem ahead_leap (quiet : ∀ r, s.LeavesAlone l r) {time : Nat} (next : s.settle.nextDue? = some time) :
    (ahead { s.settle with now := time }).length < s.ahead.length := by
  obtain ⟨went, now⟩ := settle_went quiet
  obtain ⟨due, -⟩ := nextDue?_eq_some.mp next
  have fewer : s.settle.dueTimes.Sublist s.ahead := by
    have all : s.settle.dueTimes.filter (fun time => s.now < time) = s.settle.dueTimes := by
      rw [List.filter_eq_self]
      intro time due
      rw [decide_eq_true_eq, ← now]
      exact s.settle_rests.lt_of_due due
    exact all ▸ went.dues.filter _
  refine Nat.lt_of_lt_of_le ?_ fewer.length_le
  exact List.length_filter_lt_length_iff_exists.mpr ⟨time, due, by simp⟩

/-- Time passes up to a moment, and before it a launch has nothing to do. -/
theorem passUntil_went {x : Launch} {target : Nat} (still : ∀ n < target, x.turn n = x) {leaps : Nat}
    (quiet : ∀ r, s.LeavesAlone l r) (found : s.launches[l]? = some x) (early : s.now < target) :
    Went l id s (s.passUntil target leaps) ∧ (s.passUntil target leaps).now = target := by
  induction leaps generalizing s with
  | zero => exact ⟨.clock l s target, rfl⟩
  | succ leaps ih =>
      obtain ⟨went, now⟩ := settle_went quiet
      have settled : Went l id s s.settle := went.congr fun y hy => by
        cases found.symm.trans hy
        exact still s.now early
      simp only [passUntil]
      split
      · rename_i time next
        split
        · rename_i soon
          have leap := settled.trans (Went.clock l s.settle time)
          obtain ⟨more, late⟩ := ih (fun r => leap.leavesAlone (quiet r)) (leap.found found) soon
          exact ⟨leap.trans more, late⟩
        · exact ⟨settled.trans (.clock l _ target), rfl⟩
      · exact ⟨settled.trans (.clock l _ target), rfl⟩

/-- A wait for what a launch brings about when its time has come ends at that time. -/
theorem waitUntil_went {x : Launch} {time : Nat} {holds : State → Bool} (due : time ∈ x.dues)
    (still : ∀ n < time, x.turn n = x) (before : ∀ t, t.launches[l]? = some x → holds t = false)
    (after : ∀ t, t.launches[l]? = some (x.turn time) → holds t = true) {leaps : Nat}
    (quiet : ∀ r, s.LeavesAlone l r) (found : s.launches[l]? = some x) (early : s.now ≤ time)
    (enough : s.ahead.length < leaps) :
    ∃ t, s.waitUntil holds leaps = some t ∧ Went l (Launch.turn time) s t ∧ t.now = time := by
  induction leaps generalizing s with
  | zero => cases enough
  | succ leaps ih =>
      obtain ⟨went, now⟩ := settle_went quiet
      rw [waitUntil]
      by_cases come : s.now = time
      · subst come
        exact ⟨s.settle, if_pos (after _ (went.found found)), went, now⟩
      · have soon : s.now < time := by omega
        have settled : Went l id s s.settle := went.congr fun y hy => by
          cases found.symm.trans hy
          exact still s.now soon
        have unchanged := settled.found found
        have there : time ∈ s.settle.dueTimes :=
          List.mem_flatMap.mpr ⟨x, List.mem_of_getElem? unchanged, due⟩
        obtain ⟨next, leapt⟩ := nextDue?_of_mem there
        have leap := settled.trans (Went.clock l s.settle next)
        have ahead := ahead_leap quiet leapt
        obtain ⟨t, waited, more, late⟩ := ih (fun r => leap.leavesAlone (quiet r)) (leap.found found)
          ((nextDue?_eq_some.mp leapt).2 time there)
          (Nat.lt_of_lt_of_le ahead (Nat.le_of_lt_succ enough))
        refine ⟨t, ?_, leap.trans more, late⟩
        simp only [before _ unchanged, leapt, Bool.false_eq_true, if_false]
        exact waited

end State

end ClusterHarness.InProcess
