import ClusterHarness.Proofs.InProcess.Reached
import ClusterHarness.Proofs.InProcess.Running

/-! # The run of an application

How an application goes on until it has ended, one trial to a round at most, with everything else in the
process going on beside it. All others leave its launch alone, so what the run meets there is what it has
left there itself.
-/

namespace ClusterHarness.InProcess

open Cluster Compute ExceptionGeneration

/-- The run of an application that joins a launch. -/
def State.newRun (s : State) (config : Config.Node) (l : LaunchId) : Run where
  application := .exceptionGeneration
  launch := l
  context := { nodeId := config.consistentId.getD (s.freshId "app" 0), config }

/-- A run is under way that alone touches a launch. -/
structure Attending (l : LaunchId) (r : RunId) (y : Launch) (x : Run) (t : State) : Prop where
  launch : t.launches[l]? = some y
  run : t.runs[r]? = some x
  attached : x.launch = l
  others : ∀ k ≠ r, t.LeavesAlone l k

namespace Attending

variable {l : LaunchId} {r : RunId} {y : Launch} {x : Run} {t u : State}

/-- What others do in the meantime matters to neither. -/
theorem went (attending : Attending l r y x t) (went : Went l id t u) : Attending l r y x u where
  launch := went.found attending.launch
  run := went.runs attending.run attending.attached
  attached := attending.attached
  others k hk := went.leavesAlone (attending.others k hk)

theorem update (attending : Attending l r y x t) (topology : Topology) {f : Run → Run}
    (keeps : ∀ x, (f x).launch = x.launch) :
    Attending l r { y with topology } (f x) ((t.setTopology l topology).updateRun r f) ∧
      Later t ((t.setTopology l topology).updateRun r f) := by
  refine ⟨⟨?_, ?_, (keeps x).trans attending.attached, ?_⟩, rfl, map_modify_of_same t.runs r keeps⟩
  · simp [State.updateRun, State.setTopology, State.updateLaunch, attending.launch]
  · simp [State.updateRun, State.setTopology, State.updateLaunch, attending.run]
  · intro k hk z hz same
    refine attending.others k hk z ?_ same
    exact (List.getElem?_modify_ne f t.runs (Ne.symm hk)).symm.trans hz

end Attending

/-- What a run has come to in a later state, while no time has passed. -/
def Attends (l : LaunchId) (r : RunId) (s t : State) (P : Launch → Run → Prop) : Prop :=
  ∃ y x, P y x ∧ Attending l r y x t ∧ Later s t ∧ t.now = s.now

theorem Attends.after {l : LaunchId} {r : RunId} {s t u : State} {P : Launch → Run → Prop}
    (attends : Attends l r t u P) (later : Later s t) (now : t.now = s.now) : Attends l r s u P := by
  obtain ⟨y, x, goal, attending, more, same⟩ := attends
  exact ⟨y, x, goal, attending, later.trans more, same.trans now⟩

namespace Attending

variable {l : LaunchId} {r : RunId} {y : Launch} {x : Run} {t u : State}

/-- In a round the run has its turn, and the members have nothing to do. -/
theorem round (attending : Attending l r y x t) {P : Launch → Run → Prop}
    (turn : ∀ w, Attending l r y x w → Attends l r w (w.turnOfRun r) P)
    (still : ∀ y x, P y x → y.turn t.now = y) : Attends l r t t.round P := by
  have there : r ∈ List.range t.runs.length :=
    List.mem_range.mpr (List.getElem?_eq_some_iff.mp attending.run).1
  obtain ⟨before, after, split⟩ := List.append_of_mem there
  have once : (before ++ r :: after).Nodup := split ▸ List.nodup_range
  have earlier (k : RunId) (hk : k ∈ before) : k ≠ r := by
    rintro rfl
    exact (List.nodup_append.mp once).2.2 k hk k (by simp) rfl
  have later (k : RunId) (hk : k ∈ after) : k ≠ r := by
    rintro rfl
    exact (List.nodup_cons.mp (List.nodup_append.mp once).2.1).1 hk
  -- The others that come first, the run itself, the others that come after it, and then the members.
  obtain ⟨went₁, now₁⟩ := State.turnOfRuns_went before fun k hk => attending.others k (earlier k hk)
  generalize hw : before.foldl State.turnOfRun t = w at went₁ now₁
  obtain ⟨y', x', goal, attending₂, later₂, now₂⟩ := turn w (attending.went went₁)
  obtain ⟨went₃, now₃⟩ := State.turnOfRuns_went after fun k hk => attending₂.others k (later k hk)
  have attending₃ := attending₂.went went₃
  have went₄ := State.turnOfLaunches_went l (after.foldl State.turnOfRun (w.turnOfRun r))
  have now := (now₃.trans now₂).trans now₁
  have went₄ := went₄.congr (g := id) fun z hz => by
    cases attending₃.launch.symm.trans hz
    rw [now]
    exact still y' x' goal
  have round : t.round = { after.foldl State.turnOfRun (w.turnOfRun r) with
      launches := (after.foldl State.turnOfRun (w.turnOfRun r)).launches.map
        (Launch.turn (after.foldl State.turnOfRun (w.turnOfRun r)).now) } := by
    rw [State.round, split, List.foldl_append, List.foldl_cons, hw, State.turnOfLaunches_eq]
  rw [round]
  exact ⟨y', x', goal, attending₃.went went₄,
    ((went₁.later.trans later₂).trans went₃.later).trans went₄.later, now⟩

theorem pauses_iff (attending : Attending l r y x t) : t.pauses r = true ↔ x.stage.strides = 0 := by
  cases stage : x.stage <;> simp [State.pauses, attending.run, stage, RunStage.strides]

theorem isBusy (attending : Attending l r y x t) (going : ∀ failure, x.stage ≠ .ended failure) :
    t.isBusy = true := by
  rw [State.isBusy, Bool.or_eq_true, List.any_eq_true]
  refine .inl ⟨x, List.mem_of_getElem? attending.run, ?_⟩
  cases stage : x.stage with
  | ended failure => exact absurd stage (going failure)
  | _ => rfl

theorem target (attending : Attending l r y x t) : t.launches[x.launch]? = some y :=
  attending.attached ▸ attending.launch

end Attending

theorem State.continueRun_of_pauses {t : State} {r : RunId} (pauses : t.pauses r = true) (steps : Nat) :
    continueRun r steps t = t := by
  cases steps with
  | zero => rfl
  | succ steps => rw [continueRun, if_pos pauses]

theorem State.continueRun_of_step {t u : State} {r : RunId} (going : t.pauses r = false)
    (step : t.stepRun? r = some u) (steps : Nat) :
    continueRun r (steps + 1) t = continueRun r steps u := by
  simp only [continueRun, going, Bool.false_eq_true, if_false, step]

/-! ## From turn to turn -/

/-- A run has come somewhere by itself, with so many turns left at most. Its launch is as it was at some
time, its topology aside. -/
structure Nears (base : Topology) (x : Run) (y : Launch) (turns : Nat) (y' : Launch) (z : Run) : Prop where
  reached : Reached base x y'.topology z
  same : y' = { y with topology := y'.topology }
  near : z.stage.turns ≤ turns

theorem Nears.rests {base : Topology} {x z : Run} {y y' : Launch} {turns now : Nat}
    (nears : Nears base x y turns y' z) (rests : y.Rests now) : y'.Rests now := by
  rw [nears.same]
  exact rests

namespace Attending

variable {base : Topology} {x z : Run} {y y' : Launch} {r : RunId} {turns steps : Nat} {s t u : State}

theorem step (attending : Attending x.launch r y' z t) (nears : Nears base x y turns y' z)
    (h : t.stepRun? r = some u) :
    ∃ y' z', Attending x.launch r y' z' u ∧ Later t u ∧ u.now = t.now ∧ Nears base x y turns y' z' ∧
      Onward z.stage z'.stage := by
  have halfway : Halfway base x r t := ⟨y', z, attending.launch, attending.run, nears.reached⟩
  have after := halfway.step h
  obtain ⟨w, topology, f, found, keeps, rfl, onward⟩ := State.onward_of_stepRun? h
  cases attending.run.symm.trans found
  rw [attending.attached] at after ⊢
  obtain ⟨next, later⟩ := attending.update topology keeps
  have same : ({ y' with topology } : Launch) = { y with topology } := by rw [nears.same]
  exact ⟨_, _, next, later, rfl,
    ⟨after.reached next.run next.target, same, onward.turns_le.trans nears.near⟩, onward⟩

/-- A run that goes on until it pauses has one turn less. -/
theorem continueRun_nears (attending : Attending x.launch r y' z t)
    (nears : Nears base x y (turns + 1) y' z) (going : z.stage.strides ≠ 0)
    (enough : z.stage.strides ≤ steps) :
    Attends x.launch r t (t.continueRun r steps) (Nears base x y turns) := by
  induction steps generalizing y' z t with
  | zero => exact absurd (Nat.le_zero.mp enough) going
  | succ steps ih =>
      have moving : ∀ failure, z.stage ≠ .ended failure := by
        intro failure ended
        exact going (by rw [ended]; rfl)
      obtain ⟨u, h⟩ := State.stepRun?_of_going attending.run attending.target moving
      obtain ⟨y', z', next, later, now, nears', onward⟩ := attending.step nears h
      have pauses : t.pauses r = false := by
        rw [← Bool.not_eq_true, attending.pauses_iff]
        exact going
      rw [State.continueRun_of_step pauses h]
      by_cases stops : z'.stage.strides = 0
      · rw [State.continueRun_of_pauses (next.pauses_iff.mpr stops)]
        have near := Nat.le_of_lt_succ (Nat.lt_of_lt_of_le (onward.turns_lt stops) nears.near)
        exact ⟨y', z', { nears' with near }, next, later, now⟩
      · have fewer := onward.strides_lt going
        exact (ih next nears' stops (by omega)).after later now

theorem turnOfRun_nears (attending : Attending x.launch r y' z t)
    (nears : Nears base x y (turns + 1) y' z) (few : turns ≤ trials.length) :
    Attends x.launch r t (t.turnOfRun r) (Nears base x y turns) := by
  rw [State.turnOfRun]
  split
  · rename_i u h
    obtain ⟨y', z', next, later, now, nears', onward⟩ := attending.step nears h
    by_cases stops : z'.stage.strides = 0
    · rw [State.continueRun_of_pauses (next.pauses_iff.mpr stops)]
      have near := Nat.le_of_lt_succ (Nat.lt_of_lt_of_le (onward.turns_lt stops) nears.near)
      exact ⟨y', z', { nears' with near }, next, later, now⟩
    · have bound := onward.strides_le
      have near := nears.near
      exact (next.continueRun_nears nears' stops (by omega)).after later now
  · rename_i still
    have ended : z.stage.turns = 0 := by
      rw [RunStage.turns_eq_zero]
      by_contra going
      obtain ⟨u, h⟩ := State.stepRun?_of_going attending.run attending.target (not_exists.mp going)
      cases still.symm.trans h
    exact ⟨y', z, { nears with near := ended ▸ Nat.zero_le _ }, attending, ⟨rfl, rfl⟩, rfl⟩

/-- In due time a run has no turn left. -/
theorem rounds_nears (attending : Attending x.launch r y' z t) (nears : Nears base x y turns y' z)
    (rests : y.Rests t.now) (few : turns ≤ trials.length + 1) {limit : Nat} (enough : turns ≤ limit) :
    Attends x.launch r t (t.rounds limit) (Nears base x y 0) := by
  induction limit generalizing y' z t turns with
  | zero =>
      cases Nat.le_zero.mp enough
      exact ⟨y', z, nears, attending, ⟨rfl, rfl⟩, rfl⟩
  | succ limit ih =>
      rw [State.rounds]
      by_cases busy : t.isBusy = true
      · rw [if_pos busy]
        have near : z.stage.turns ≤ turns - 1 + 1 := nears.near.trans (by omega)
        obtain ⟨y', z', nears', next, later, now⟩ := attending.round
          (fun w attending => attending.turnOfRun_nears { nears with near } (by omega))
          fun y z nears => Launch.turn_of_rests (nears.rests rests)
        exact (ih next nears' (now ▸ rests) (by omega) (by omega)).after later now
      · rw [if_neg busy]
        have ended : z.stage.turns = 0 := by
          rw [RunStage.turns_eq_zero]
          by_contra going
          exact busy (attending.isBusy (not_exists.mp going))
        exact ⟨y', z, { nears with near := Nat.le_of_eq ended }, attending, ⟨rfl, rfl⟩, rfl⟩

/-- The wait for a run takes no time. The run has ended after it, and only tasks have gone on. -/
theorem awaitStopped_finish {a : AppId} (taken : s.takeRun? a = some (r, t))
    (attending : Attending x.launch r y z t) (reached : Reached base x y.topology z)
    (rests : y.Rests t.now) (few : z.stage.turns ≤ trials.length + 1) :
    ∃ y' z' failure u, (s.awaitStopped a).finish = some ⟨z'.told failure, 0, u⟩ ∧
      z'.stage = .ended failure ∧ Nears base x y 0 y' z' ∧ Attending x.launch r y' z' u ∧ Later t u := by
  by_cases already : State.hasEnded r t = true
  · obtain ⟨failure, ended⟩ := State.ended_of_runResult? attending.run already
    have result := State.runResult?_of_ended attending.run ended
    refine ⟨y, z, failure, t, ?_, ended, ⟨reached, rfl, by rw [ended]; rfl⟩, attending, ⟨rfl, rfl⟩⟩
    simp [State.awaitStopped, taken, State.waitFor, already, result, Course.now]
  · have enough : z.stage.turns ≤ State.roundLimit := by rw [State.roundLimit]; omega
    obtain ⟨y', z', nears, attending', later, now⟩ :=
      attending.rounds_nears ⟨reached, rfl, Nat.le_refl _⟩ rests few enough
    obtain ⟨failure, ended⟩ := RunStage.turns_eq_zero.mp (Nat.le_zero.mp nears.near)
    have result : t.settle.runResult? r = some (z'.told failure) :=
      State.runResult?_of_ended attending'.run ended
    have told : State.hasEnded r t.settle = true := by rw [State.hasEnded, result]; rfl
    have waited : t.await (State.hasEnded r) = some t.settle := by
      simp [State.await, State.waitUntil, told]
    have now : t.settle.now = t.now := now
    refine ⟨y', z', failure, t.settle, ?_, ended, nears, attending', later⟩
    simp [State.awaitStopped, taken, State.waitFor, already, waited, result, now]

end Attending

end ClusterHarness.InProcess
