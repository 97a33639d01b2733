import ClusterHarness.Proofs.Compute.Remote
import ClusterHarness.Proofs.InProcess.Effect
import ClusterHarness.Proofs.InProcess.Log

/-! # Members come and go with their tasks

A task joins a topology once at most, and leaves it once before it ends if it was let in. Since ids
tell nodes apart while they are there, what it removes is the node that it had let join, whatever ids
other tasks ask for. A task that is refused makes no other call.
-/

namespace ClusterHarness.InProcess

open Cluster Compute

/-! ## Where tasks stand, and what they call -/

def Seat.standing (seat : Seat) : Standing :=
  match seat.stage with
  | .planned | .due _ => .outside
  | .joined => .inside seat.member
  | .ended _ => .gone

def Run.standing (x : Run) : Standing :=
  match x.stage with
  | .spawned => .outside
  | .trying _ | .sent .. | .leaving _ => .inside x.member
  | .ended _ => .gone

/-- An application is there as long as its answers are judged. -/
theorem Run.standing_judged (x : Run) (trial : ExceptionGeneration.Trial)
    (rest : List ExceptionGeneration.Trial) (answer : Answer) :
    ({ x with stage := State.judged trial rest answer } : Run).standing = .inside x.member := by
  simp only [State.judged]
  cases trial.judge answer <;> rfl

/-- Where a task stands with the topology of a launch. A task that has nothing to do with it is
outside. -/
def State.standing (s : State) (l : LaunchId) : Task → Standing
  | .seat i => ((s.launches[l]?.bind fun x => x.seats[i]?).map Seat.standing).getD .outside
  | .run r =>
    match s.runs[r]? with
    | some x => if x.launch = l then x.standing else .outside
    | none => .outside

/-- The call of a task that asks to join, with what comes of it. -/
def Entry.ofJoin (topology : Topology) (task : Task) (node : Member) : Entry :=
  match topology.join node with
  | .ok _ => .joined task node
  | .error _ => .refused task

/-- The call that an application makes on the topology that it joins. -/
def Run.call? (x : Run) (r : RunId) (topology : Topology) : Option Entry :=
  match x.stage with
  | .spawned => some (.ofJoin topology (.run r) x.member)
  | .leaving _ => some (.left (.run r) x.member.id)
  | _ => none

/-- The call that a move makes on the topology of a launch, if it makes one. -/
def State.call? (s : State) (l : LaunchId) : Move → Option Entry
  | .joinSeat k i => do
    guard (k = l)
    let x ← s.launches[l]?
    let seat ← x.seats[i]?
    return .ofJoin x.topology (.seat i) seat.member
  | .leaveSeat k i => do
    guard (k = l)
    let x ← s.launches[l]?
    let seat ← x.seats[i]?
    guard (seat.stage = .joined)
    return .left (.seat i) seat.member.id
  | .stepRun r => do
    let x ← s.runs[r]?
    guard (x.launch = l)
    let launch ← s.launches[l]?
    x.call? r launch.topology
  | _ => none

section

variable {s : State} {k l : LaunchId}

theorem State.call?_joinSeat {x : Launch} {seat : Seat} {i : Nat} (found : s.launches[k]? = some x)
    (seated : x.seats[i]? = some seat) : s.call? l (.joinSeat k i) =
      if k = l then some (.ofJoin x.topology (.seat i) seat.member) else none := by
  by_cases hk : k = l
  · subst hk
    simp [call?, found, seated]
  · simp [call?, hk]

theorem State.call?_leaveSeat {x : Launch} {seat : Seat} {i : Nat} (found : s.launches[k]? = some x)
    (seated : x.seats[i]? = some seat) (there : seat.stage = .joined) :
    s.call? l (.leaveSeat k i) = if k = l then some (.left (.seat i) seat.member.id) else none := by
  by_cases hk : k = l
  · subst hk
    simp [call?, found, seated, there]
  · simp [call?, hk]

theorem State.call?_leaveSeat_of_due {x : Launch} {seat : Seat} {i time : Nat}
    (found : s.launches[k]? = some x) (seated : x.seats[i]? = some seat)
    (due : seat.stage = .due time) : s.call? l (.leaveSeat k i) = none := by
  by_cases hk : k = l
  · subst hk
    simp [call?, found, seated, due]
  · simp [call?, hk]

theorem State.call?_stepRun {x : Run} {launch : Launch} {r : RunId} (found : s.runs[r]? = some x)
    (target : s.launches[x.launch]? = some launch) :
    s.call? l (.stepRun r) = if x.launch = l then x.call? r launch.topology else none := by
  by_cases hl : x.launch = l
  · subst hl
    simp [call?, found, target]
  · simp [call?, found, hl]

end

def State.history (l : LaunchId) : State → List Move → List Entry
  | _, [] => []
  | s, m :: moves =>
    (s.call? l m).toList ++
      match s.after? m with
      | some t => history l t moves
      | none => []

theorem State.history_eq_notes (l : LaunchId) (s : State) (moves : List Move) :
    s.history l moves = s.notes (fun s m => s.call? l m) moves := by
  induction moves generalizing s with
  | nil => rfl
  | cons m moves ih =>
      rw [history, notes]
      cases s.after? m with
      | none => rfl
      | some t => simp only [ih t]

theorem State.history_concat {l : LaunchId} {s t : State} {moves : List Move} {m : Move}
    (h : s.afterAll? moves = some t) :
    s.history l (moves ++ [m]) = s.history l moves ++ (t.call? l m).toList := by
  rw [history_eq_notes, history_eq_notes, notes_concat h]

section

variable {s t : State} {l k : LaunchId}

theorem State.standing_seat {x : Launch} {seat : Seat} {i : Nat} (found : s.launches[l]? = some x)
    (seated : x.seats[i]? = some seat) : s.standing l (.seat i) = seat.standing := by
  simp [standing, found, seated]

theorem State.standing_run {x : Run} {r : RunId} (found : s.runs[r]? = some x) (here : x.launch = l) :
    s.standing l (.run r) = x.standing := by
  simp [standing, found, here]

theorem State.standing_of_seats (runs : t.runs = s.runs)
    (seats : ∀ i : Nat, (t.launches[l]?.bind fun x => x.seats[i]?).map Seat.standing =
      (s.launches[l]?.bind fun x => x.seats[i]?).map Seat.standing) : t.standing l = s.standing l := by
  funext task
  cases task with
  | seat i => simp only [standing, seats]
  | run r => simp only [standing, runs]

theorem State.standing_modify {f : Launch → Launch} (runs : t.runs = s.runs)
    (launches : t.launches = s.launches.modify k f) (seats : ∀ x, (f x).seats = x.seats) :
    t.standing l = s.standing l := by
  refine standing_of_seats runs fun i => ?_
  rw [launches, List.getElem?_modify]
  cases s.launches[l]? with
  | none => rfl
  | some x => by_cases hk : k = l <;> simp [hk, seats]

theorem State.standing_seated {x : Launch} {time : Nat} (runs : t.runs = s.runs)
    (launches : t.launches = s.launches.modify k (Launch.seated time))
    (found : s.launches[k]? = some x) (planned : ∀ seat ∈ x.seats, seat.stage = .planned) :
    t.standing l = s.standing l := by
  refine standing_of_seats runs fun i => ?_
  rw [launches]
  by_cases hk : k = l
  · subst hk
    simp only [List.getElem?_modify_eq, found, Option.map_eq_map, Option.map_some, Option.bind_some,
      Launch.seated, List.getElem?_map]
    cases seated : x.seats[i]? with
    | none => rfl
    | some seat =>
        have stage := planned seat (List.mem_of_getElem? seated)
        simp [Seat.standing, stage]
  · rw [List.getElem?_modify_ne _ _ hk]

theorem State.standing_add_run {x : Run} (launches : t.launches = s.launches)
    (runs : t.runs = s.runs ++ [x]) (spawned : x.stage = .spawned) :
    t.standing l = s.standing l := by
  funext task
  cases task with
  | seat i => simp only [standing, launches]
  | run r =>
      by_cases old : r < s.runs.length
      · simp only [standing, runs, List.getElem?_append_left old]
      · have beyond := Nat.le_of_not_lt old
        simp only [standing, runs, List.getElem?_append_right beyond, List.getElem?_eq_none beyond,
          List.getElem?_singleton]
        by_cases last : r - s.runs.length = 0
        · simp [last, Run.standing, spawned]
        · simp [last]

theorem State.standing_other_seat {f : Launch → Launch} {g : Seat → Seat} {i : Nat}
    (runs : t.runs = s.runs) (launches : t.launches = s.launches.modify k f)
    (seats : ∀ x, (f x).seats = x.seats.modify i g) {task : Task} (other : k = l → task ≠ .seat i) :
    t.standing l task = s.standing l task := by
  cases task with
  | run r => simp only [standing, runs]
  | seat j =>
      simp only [standing, launches, List.getElem?_modify]
      cases s.launches[l]? with
      | none => rfl
      | some x =>
          by_cases hk : k = l
          · have hj : i ≠ j := fun same => other hk (same ▸ rfl)
            simp [hk, seats, hj]
          · simp [hk]

theorem State.standing_this_seat {f : Launch → Launch} {g : Seat → Seat} {i : Nat} {x : Launch}
    {seat : Seat} (found : s.launches[k]? = some x) (seated : x.seats[i]? = some seat)
    (launches : t.launches = s.launches.modify k f) (seats : (f x).seats = x.seats.modify i g) :
    t.standing k (.seat i) = (g seat).standing := by
  refine standing_seat (x := f x) ?_ ?_
  · simp [launches, found]
  · simp [seats, seated]

theorem State.standing_other_run {f : Launch → Launch} {g : Run → Run} {r : RunId} {x : Run}
    (found : s.runs[r]? = some x) (runs : t.runs = s.runs.modify r g)
    (launch : (g x).launch = x.launch) (launches : t.launches = s.launches.modify k f)
    (seats : ∀ y, (f y).seats = y.seats) {task : Task} (other : x.launch = l → task ≠ .run r) :
    t.standing l task = s.standing l task := by
  cases task with
  | seat i =>
      simp only [standing, launches, List.getElem?_modify]
      cases s.launches[l]? with
      | none => rfl
      | some y => by_cases hk : k = l <;> simp [hk, seats]
  | run q =>
      by_cases same : r = q
      · subst same
        have away : x.launch ≠ l := fun here => other here rfl
        simp [standing, runs, found, launch, away]
      · simp [standing, runs, same]

end

theorem State.launches_setTopology_setSeat {s : State} {l : LaunchId} {topology : Topology} {i : Nat}
    {stage : SeatStage} :
    ((s.setTopology l topology).setSeat l i stage).launches = s.launches.modify l fun x =>
      { x with topology, seats := x.seats.modify i fun seat => { seat with stage } } :=
  List.modify_modify_eq _ _ _ _

/-! ## The order of things -/

theorem State.discover_ok {s : State} {application : Application} {config : Config.Node}
    {l : LaunchId} {x : Launch} (h : s.discover application config = .ok (l, x)) :
    s.launches[l]? = some x := by
  simp only [discover] at h
  repeat (split at h <;> try cases h)
  assumption

/-- Whether the tasks of the members have yet to be spawned. -/
def Launch.isEarly (x : Launch) : Bool := x.phase matches .accepted | .rendering _

theorem Launch.isEarly_of_rendering {x : Launch} {written : Nat}
    (phase : x.phase = .rendering written) : x.isEarly = true := by
  rw [isEarly, phase]

/-- Whether every run is attached to a launch that there is, as it is in every state that the process
can reach. -/
def State.IsAttached (s : State) : Prop := ∀ l ∈ s.runs.map Run.launch, l < s.launches.length

/-- Runs go to launches that are there, and no task of a member begins before the launch runs. -/
structure Orderly (s : State) : Prop where
  attached : s.IsAttached
  unseated : ∀ {l : LaunchId} {x : Launch}, s.launches[l]? = some x → x.isEarly = true →
    ∀ seat ∈ x.seats, seat.stage = .planned

namespace Orderly

variable {s t : State}

/-- The runs stay with their launches, and no launch begins over. -/
theorem frame (o : Orderly s) (runs : t.runs.map Run.launch = s.runs.map Run.launch)
    {k : LaunchId} {f : Launch → Launch} (launches : t.launches = s.launches.modify k f)
    (early : ∀ x, s.launches[k]? = some x → (f x).isEarly = true →
      x.isEarly = true ∧ (f x).seats = x.seats) : Orderly t where
  attached := by
    rw [State.IsAttached, runs, launches, List.length_modify]
    exact o.attached
  unseated {l x} hx now := by
    rw [launches, List.getElem?_modify, Option.map_eq_map,
      Option.map_eq_some_iff] at hx
    obtain ⟨y, hy, rfl⟩ := hx
    by_cases hk : k = l
    · subst hk
      rw [if_pos rfl] at now ⊢
      obtain ⟨before, same⟩ := early y hy now
      rw [same]
      exact o.unseated hy before
    · rw [if_neg hk] at now ⊢
      exact o.unseated hy now

/-- A member that is due or has joined has a launch that runs or ran. -/
theorem late_of_seat (o : Orderly s) {l : LaunchId} {i : Nat} {x : Launch} {seat : Seat}
    (found : s.launches[l]? = some x) (seated : x.seats[i]? = some seat)
    (begun : seat.stage ≠ .planned) : x.isEarly = false := by
  cases early : x.isEarly with
  | false => rfl
  | true => exact absurd (o.unseated found early seat (List.mem_of_getElem? seated)) begun

theorem frame_runs (o : Orderly s) (runs : t.runs.map Run.launch = s.runs.map Run.launch)
    (launches : t.launches = s.launches) : Orderly t :=
  o.frame (k := 0) (f := id) runs (by rw [launches, List.modify_id]) fun _ _ early => ⟨early, rfl⟩

theorem step (o : Orderly s) {m : Move} (h : s.after? m = some t) : Orderly t := by
  cases Effect.of_after? h with
  | addCluster | addApplication | runTaken | passed => exact ⟨o.attached, o.unseated⟩
  | accepted found plan =>
      refine ⟨fun l hl => ?_, fun {l x} hx early => ?_⟩
      · rw [List.length_append]
        exact Nat.lt_add_right 1 (o.attached l hl)
      · rcases of_getElem?_concat hx with old | ⟨-, rfl⟩
        · exact o.unseated old early
        · intro seat member
          obtain ⟨m, -, rfl⟩ := List.mem_map.mp member
          rfl
  | bound found phase =>
      refine o.frame rfl rfl fun y hy _ => ⟨?_, rfl⟩
      cases found.symm.trans hy
      simp [Launch.isEarly, phase]
  | rendered found phase =>
      refine o.frame rfl rfl fun y hy _ => ⟨?_, rfl⟩
      cases found.symm.trans hy
      simp [Launch.isEarly, phase]
  | refused | unrendered | installed | live | abandoned => exact o.frame rfl rfl fun _ _ => nofun
  | halted running found => exact o.frame rfl rfl fun _ _ early => ⟨early, rfl⟩
  | joined found seated due =>
      have late := o.late_of_seat found seated (by simp [due])
      refine o.frame rfl State.launches_setTopology_setSeat fun y hy early => ?_
      cases found.symm.trans hy
      exact absurd (late.symm.trans early) nofun
  | left found seated told there =>
      have late := o.late_of_seat found seated (by simp [there])
      refine o.frame rfl State.launches_setTopology_setSeat fun y hy early => ?_
      cases found.symm.trans hy
      exact absurd (late.symm.trans early) nofun
  | turnedAway found seated due =>
      have late := o.late_of_seat found seated (by simp [due])
      refine o.frame rfl rfl fun y hy early => ?_
      cases found.symm.trans hy
      exact absurd (late.symm.trans early) nofun
  | calledOff found seated told due =>
      have late := o.late_of_seat found seated (by simp [due])
      refine o.frame rfl rfl fun y hy early => ?_
      cases found.symm.trans hy
      exact absurd (late.symm.trans early) nofun
  | runStarted target =>
      refine ⟨fun l hl => ?_, o.unseated⟩
      rw [State.withRun, List.map_append] at hl
      rcases List.mem_append.mp hl with old | new
      · exact o.attached l old
      · rw [List.map_singleton, List.mem_singleton] at new
        subst new
        exact (List.getElem?_eq_some_iff.mp (State.discover_ok target)).1
  | runJoined | runSent | runLeft =>
      exact o.frame (map_modify_of_same _ _ fun _ => rfl) rfl fun _ _ early => ⟨early, rfl⟩
  | runTurnedAway | runFinished | runUnsent | runJudged =>
      exact o.frame_runs (map_modify_of_same _ _ fun _ => rfl) rfl

end Orderly

/-! ## The topology of one launch -/

/-- The topology of a launch is what the calls of its tasks have made of it. -/
structure Traced (l : LaunchId) (s : State) (log : List Entry) : Prop where
  fresh : s.launches[l]? = none → log = []
  bracketed : ∀ {x : Launch}, s.launches[l]? = some x → Bracketed (s.standing l) x.topology log

namespace Traced

variable {l k : LaunchId} {s t : State} {log : List Entry} {f : Launch → Launch}

/-- No call is made on the topology. -/
theorem frame (tr : Traced l s log) (launches : t.launches = s.launches.modify k f)
    (topology : ∀ x, s.launches[k]? = some x → k = l →
      (f x).topology.members = x.topology.members ∧ (f x).topology.version = x.topology.version)
    (stand : ∀ task, t.standing l task = s.standing l task ∨
      s.standing l task = .outside ∧ t.standing l task = .gone) : Traced l t log where
  fresh hl := by
    rw [launches, List.getElem?_modify, Option.map_eq_map, Option.map_eq_none_iff] at hl
    exact tr.fresh hl
  bracketed {x} hx := by
    rw [launches, List.getElem?_modify, Option.map_eq_map, Option.map_eq_some_iff] at hx
    obtain ⟨y, hy, rfl⟩ := hx
    by_cases hk : k = l
    · subst hk
      rw [if_pos rfl]
      obtain ⟨members, version⟩ := topology y hy rfl
      exact (tr.bracketed hy).frame members version stand
    · rw [if_neg hk]
      exact (tr.bracketed hy).frame rfl rfl stand

theorem frame_launches (tr : Traced l s log) (launches : t.launches = s.launches)
    (stand : t.standing l = s.standing l) : Traced l t log :=
  tr.frame (k := 0) (f := id) (by rw [launches, List.modify_id]) (fun _ _ _ => ⟨rfl, rfl⟩)
    fun task => .inl (congrFun stand task)

/-- The start call of a launch goes on. -/
theorem frame_phase (tr : Traced l s log) (runs : t.runs = s.runs)
    (launches : t.launches = s.launches.modify k f) (seats : ∀ x, (f x).seats = x.seats)
    (topology : ∀ x, (f x).topology = x.topology) : Traced l t log :=
  tr.frame launches (fun x _ _ => by simp [topology]) fun task =>
    .inl (congrFun (State.standing_modify runs launches seats) task)

/-- A call is made on the topology. -/
theorem call (tr : Traced l s log) {x : Launch} {topology : Topology} {e : Entry}
    (hx : s.launches[l]? = some x) (launches : t.launches = s.launches.modify l f)
    (set : (f x).topology = topology)
    (b : Bracketed (s.standing l) x.topology log → Bracketed (t.standing l) topology (log ++ [e])) :
    Traced l t (log ++ [e]) where
  fresh hl := by
    rw [launches, List.getElem?_modify, hx] at hl
    cases hl
  bracketed {y} hy := by
    rw [launches, List.getElem?_modify_eq, hx] at hy
    cases hy
    rw [set]
    exact b (tr.bracketed hx)

private theorem quiet {m : Move} (tr : Traced l t log) (silent : s.call? l m = none) :
    Traced l t (log ++ (s.call? l m).toList) := by
  rw [silent, Option.toList_none, List.append_nil]
  exact tr

private theorem heard {m : Move} {e : Entry} (tr : Traced l t (log ++ [e]))
    (entry : s.call? l m = some e) : Traced l t (log ++ (s.call? l m).toList) := by
  rw [entry, Option.toList_some]
  exact tr

/-- A launch that is new has a topology that nobody has called on. -/
theorem add (tr : Traced l s log) (o : Orderly s) {new : Launch} (runs : t.runs = s.runs)
    (launches : t.launches = s.launches ++ [new]) (empty : new.topology.members = [])
    (version : new.topology.version = 0) (planned : ∀ seat ∈ new.seats, seat.stage = .planned) :
    Traced l t log where
  fresh hl := by
    rw [launches, List.getElem?_eq_none_iff, List.length_append] at hl
    exact tr.fresh (List.getElem?_eq_none (Nat.le_of_add_right_le hl))
  bracketed {x} hx := by
    rw [launches] at hx
    rcases of_getElem?_concat hx with found | ⟨here, rfl⟩
    · have inside := (List.getElem?_eq_some_iff.mp found).1
      refine (tr.bracketed found).frame rfl rfl fun task => .inl (congrFun ?_ task)
      exact State.standing_of_seats runs fun i => by rw [launches, List.getElem?_append_left inside]
    · rw [tr.fresh (List.getElem?_eq_none (Nat.le_of_eq here.symm))]
      refine .start (fun task => ?_) empty version
      cases task with
      | seat i =>
          simp only [State.standing, launches, here, List.getElem?_concat_length, Option.bind_some]
          cases seated : x.seats[i]? with
          | none => rfl
          | some seat => simp [Seat.standing, planned seat (List.mem_of_getElem? seated)]
      | run r =>
          simp only [State.standing, runs]
          cases found : s.runs[r]? with
          | none => rfl
          | some y =>
              have old := o.attached _ (List.mem_map_of_mem (f := Run.launch) (List.mem_of_getElem? found))
              exact if_neg fun same => Nat.lt_irrefl _ (same.trans here ▸ old)

/-- The task of a member calls on its topology. -/
private theorem seat_call (tr : Traced l s log) {m : Move} {e : Entry} {i : Nat} {g : Seat → Seat}
    {x : Launch} {seat : Seat} (found : s.launches[k]? = some x) (seated : x.seats[i]? = some seat)
    (runs : t.runs = s.runs) (launches : t.launches = s.launches.modify k f)
    (seats : ∀ x, (f x).seats = x.seats.modify i g)
    (entry : s.call? l m = if k = l then some e else none)
    (b : t.standing k (.seat i) = (g seat).standing →
      (∀ other, other ≠ .seat i → t.standing k other = s.standing k other) →
      Bracketed (s.standing k) x.topology log →
        Bracketed (t.standing k) (f x).topology (log ++ [e])) :
    Traced l t (log ++ (s.call? l m).toList) := by
  by_cases hk : k = l
  · subst hk
    refine heard (tr.call found launches rfl (b ?_ fun other apart => ?_)) (entry.trans (if_pos rfl))
    · exact State.standing_this_seat found seated launches (seats x)
    · exact State.standing_other_seat runs launches seats fun _ => apart
  · refine quiet (tr.frame launches (fun _ _ same => absurd same hk) fun task => .inl ?_)
      (entry.trans (if_neg hk))
    exact State.standing_other_seat runs launches seats fun same => absurd same hk

/-- The task of an application calls on the topology that it joins. -/
private theorem run_call (tr : Traced l s log) {m : Move} {e : Entry} {r : RunId} {g : Run → Run}
    {x : Run} {launch : Launch} (found : s.runs[r]? = some x)
    (target : s.launches[x.launch]? = some launch) (runs : t.runs = s.runs.modify r g)
    (stays : (g x).launch = x.launch) (launches : t.launches = s.launches.modify x.launch f)
    (seats : ∀ y, (f y).seats = y.seats)
    (entry : s.call? l m = if x.launch = l then some e else none)
    (b : t.standing x.launch (.run r) = (g x).standing →
      (∀ other, other ≠ .run r → t.standing x.launch other = s.standing x.launch other) →
      Bracketed (s.standing x.launch) launch.topology log →
        Bracketed (t.standing x.launch) (f launch).topology (log ++ [e])) :
    Traced l t (log ++ (s.call? l m).toList) := by
  by_cases hl : x.launch = l
  · subst hl
    refine heard (tr.call target launches rfl (b ?_ fun other apart => ?_)) (entry.trans (if_pos rfl))
    · exact State.standing_run (by simp [runs, found]) stays
    · exact State.standing_other_run found runs stays launches seats fun _ => apart
  · refine quiet (tr.frame launches (fun _ _ same => absurd same hl) fun task => .inl ?_)
      (entry.trans (if_neg hl))
    exact State.standing_other_run found runs stays launches seats fun same => absurd same hl

/-- The task of an application goes on and stays in the topology. -/
private theorem run_quiet (tr : Traced l s log) {r : RunId} {g : Run → Run} {x : Run}
    (found : s.runs[r]? = some x) (runs : t.runs = s.runs.modify r g)
    (stays : (g x).launch = x.launch) (launches : t.launches = s.launches.modify k f)
    (seats : ∀ y, (f y).seats = y.seats)
    (topology : ∀ x, s.launches[k]? = some x → k = l →
      (f x).topology.members = x.topology.members ∧ (f x).topology.version = x.topology.version)
    (stands : (g x).standing = x.standing) : Traced l t log := by
  refine tr.frame launches topology fun task => .inl ?_
  by_cases this : x.launch = l ∧ task = .run r
  · obtain ⟨here, rfl⟩ := this
    rw [State.standing_run found here, ← stands]
    exact State.standing_run (by simp [runs, found]) (stays.trans here)
  · exact State.standing_other_run found runs stays launches seats fun here same => this ⟨here, same⟩

theorem step (o : Orderly s) (tr : Traced l s log) {m : Move} (h : s.after? m = some t) :
    Traced l t (log ++ (s.call? l m).toList) := by
  cases Effect.of_after? h with
  | addCluster | addApplication | runTaken | passed => exact quiet (tr.frame_launches rfl rfl) rfl
  | bound | refused | rendered | unrendered | live | abandoned | halted =>
      exact quiet (tr.frame_phase rfl rfl (fun _ => rfl) fun _ => rfl) rfl
  | accepted found plan =>
      exact quiet (tr.add o rfl rfl rfl rfl (by simp [Launch.planned])) rfl
  | installed found phase owner =>
      have early : Launch.isEarly _ = true := Launch.isEarly_of_rendering phase
      refine quiet (tr.frame rfl (fun _ _ _ => ⟨rfl, rfl⟩) fun task => .inl (congrFun ?_ task)) rfl
      exact State.standing_seated rfl rfl found (o.unseated found early)
  | runStarted target =>
      exact quiet (tr.frame_launches rfl (State.standing_add_run rfl rfl rfl)) rfl
  | joined found seated due now room =>
      refine tr.seat_call found seated rfl State.launches_setTopology_setSeat (fun _ => rfl)
        (State.call?_joinSeat found seated) fun self others b => ?_
      rw [Entry.ofJoin, room]
      exact b.join (by rw [State.standing_seat found seated, Seat.standing, due]) room self others
  | turnedAway found seated due now taken =>
      refine tr.seat_call found seated rfl rfl (fun _ => rfl) (State.call?_joinSeat found seated)
        fun self others b => ?_
      rw [Entry.ofJoin, taken]
      exact b.refuse (by rw [State.standing_seat found seated, Seat.standing, due]) self others
  | left found seated told there =>
      refine tr.seat_call found seated rfl State.launches_setTopology_setSeat (fun _ => rfl)
        (State.call?_leaveSeat found seated there) fun self others b => ?_
      exact b.leave (by rw [State.standing_seat found seated, Seat.standing, there]) self others
  | @calledOff k i x seat time found seated told due =>
      have launches : (s.setSeat k i (.ended false)).launches = s.launches.modify k fun x =>
        { x with seats := x.seats.modify i fun seat => { seat with stage := .ended false } } := rfl
      refine quiet (tr.frame launches (fun _ _ _ => ⟨rfl, rfl⟩) fun task => ?_)
        (State.call?_leaveSeat_of_due found seated due)
      by_cases this : k = l ∧ task = .seat i
      · obtain ⟨rfl, rfl⟩ := this
        refine .inr ⟨by rw [State.standing_seat found seated, Seat.standing, due], ?_⟩
        exact State.standing_this_seat found seated launches rfl
      · have runs : (s.setSeat k i (.ended false)).runs = s.runs := rfl
        left
        exact State.standing_other_seat runs launches (fun _ => rfl) fun here same => this ⟨here, same⟩
  | runJoined found target stage room =>
      refine tr.run_call found target rfl rfl rfl (fun _ => rfl)
        ((State.call?_stepRun found target).trans (by rw [Run.call?, stage])) fun self others b => ?_
      rw [Entry.ofJoin, room]
      exact b.join (by rw [State.standing_run found rfl, Run.standing, stage]) room self others
  | runTurnedAway found target stage taken =>
      refine tr.run_call found target rfl rfl (List.modify_id _ _).symm (fun _ => rfl)
        ((State.call?_stepRun found target).trans (by rw [Run.call?, stage])) fun self others b => ?_
      rw [Entry.ofJoin, taken]
      exact b.refuse (by rw [State.standing_run found rfl, Run.standing, stage]) self others
  | runLeft found target stage =>
      refine tr.run_call found target rfl rfl rfl (fun _ => rfl)
        ((State.call?_stepRun found target).trans (by rw [Run.call?, stage])) fun self others b => ?_
      exact b.leave (by rw [State.standing_run found rfl, Run.standing, stage]) self others
  | runSent found target stage sent =>
      obtain ⟨rfl, -⟩ := Shipment.send_ok sent
      refine quiet (tr.run_quiet found rfl rfl rfl (fun _ => rfl) ?_ ?_) ?_
      · intro y hy _
        cases target.symm.trans hy
        exact ⟨rfl, rfl⟩
      · simp only [Run.standing, stage]
        rfl
      · simp [State.call?_stepRun found target, Run.call?, stage]
  | runFinished found target stage =>
      refine quiet (tr.run_quiet found rfl rfl (List.modify_id 0 _).symm (fun _ => rfl)
        (fun _ _ _ => ⟨rfl, rfl⟩) ?_) ?_
      · simp only [Run.standing, stage]
        rfl
      · simp [State.call?_stepRun found target, Run.call?, stage]
  | runUnsent found target stage failed =>
      refine quiet (tr.run_quiet found rfl rfl (List.modify_id 0 _).symm (fun _ => rfl)
        (fun _ _ _ => ⟨rfl, rfl⟩) ?_) ?_
      · exact (Run.standing_judged _ _ _ _).trans (by rw [Run.standing, stage])
      · simp [State.call?_stepRun found target, Run.call?, stage]
  | runJudged found target stage =>
      refine quiet (tr.run_quiet found rfl rfl (List.modify_id 0 _).symm (fun _ => rfl)
        (fun _ _ _ => ⟨rfl, rfl⟩) ?_) ?_
      · exact (Run.standing_judged _ _ _ _).trans (by rw [Run.standing, stage])
      · simp [State.call?_stepRun found target, Run.call?, stage]

end Traced

/-- The call of a task that is refused leaves the topology as it is. -/
theorem State.topology_of_refused {s t : State} {l : LaunchId} {m : Move} {task : Task} {x : Launch}
    (h : s.after? m = some t) (refused : s.call? l m = some (.refused task))
    (hx : s.launches[l]? = some x) : t.launches[l]?.map Launch.topology = some x.topology := by
  have kept : ∀ {k : LaunchId} {f : Launch → Launch}, t.launches = s.launches.modify k f →
      (∀ y, (f y).topology = y.topology) → t.launches[l]?.map Launch.topology = some x.topology := by
    intro k f launches same
    rw [launches, List.getElem?_modify, hx]
    by_cases hk : k = l <;> simp [hk, same]
  cases Effect.of_after? h with
  | turnedAway => exact kept rfl fun _ => rfl
  | runTurnedAway => exact kept (List.modify_id 0 _).symm fun _ => rfl
  | joined found seated due now room =>
      rw [call?_joinSeat found seated, Entry.ofJoin, room] at refused
      split at refused <;> cases refused
  | left found seated told there =>
      rw [call?_leaveSeat found seated there] at refused
      split at refused <;> cases refused
  | calledOff found seated told due =>
      rw [call?_leaveSeat_of_due found seated due] at refused
      cases refused
  | runJoined found target stage room =>
      rw [call?_stepRun found target, Run.call?, stage, Entry.ofJoin, room] at refused
      split at refused <;> cases refused
  | runFinished found target stage | runUnsent found target stage | runSent found target stage
  | runJudged found target stage | runLeft found target stage =>
      rw [call?_stepRun found target, Run.call?, stage] at refused
      split at refused <;> cases refused
  | _ => cases refused

namespace Traced

variable {l : LaunchId} {s : State}

/-- Moves one after another make the topology what all their calls have made of it. -/
theorem afterAll {now : Nat} {files : Files} {marks : Nat → String} {moves : List Move}
    (run : State.afterAll? { now, files, marks } moves = some s) :
    Orderly s ∧ Traced l s (State.history l { now, files, marks } moves) := by
  induction moves using List.reverseRecOn generalizing s with
  | nil =>
      cases run
      exact ⟨⟨nofun, by simp⟩, ⟨fun _ => rfl, by simp⟩⟩
  | append_singleton moves m ih =>
      obtain ⟨u, before, last⟩ := State.afterAll?_concat.mp run
      obtain ⟨o, tr⟩ := ih before
      rw [State.history_concat before]
      exact ⟨o.step last, tr.step o last⟩

end Traced

theorem State.isAttached_of_afterAll {now : Nat} {files : Files} {marks : Nat → String}
    {moves : List Move} {s : State} (run : State.afterAll? { now, files, marks } moves = some s) :
    s.IsAttached :=
  (Traced.afterAll (l := 0) run).1.attached

/-- In every state that the process can reach, the calls on the topology of a launch come in brackets:
what a task removes when it leaves is the one node that it had let join; a task that is refused changes
nothing then and makes no other call; a task that was let in has left exactly once if it has ended, and
not at all before. So the version is the number of nodes that are there and twice the number of tasks
that had joined and have ended. -/
theorem membership_is_bracketed {now : Nat} {files : Files} {marks : Nat → String}
    {moves : List Move} {s : State} {l : LaunchId} {x : Launch}
    (run : State.afterAll? { now, files, marks } moves = some s) (found : s.launches[l]? = some x) :
    let log := State.history l { now, files, marks } moves
    x.topology.members.Perm ((present log).map Prod.snd) ∧
    (∀ (m : Move) (t : State) (task : Task) (id : String), s.after? m = some t →
      s.call? l m = some (.left task id) →
        ∃ node y, node.id = id ∧ (present log).filter (fun x => x.2.id = id) = [(task, node)] ∧
          callsOf task log = [.joined task node] ∧ t.launches[l]? = some y ∧
            x.topology.members.Perm (node :: y.topology.members)) ∧
    (∀ (m : Move) (t : State) (task : Task), s.after? m = some t →
      s.call? l m = some (.refused task) → t.launches[l]?.map Launch.topology = some x.topology) ∧
    (∀ task, .refused task ∈ log → s.standing l task = .gone ∧ callsOf task log = [.refused task]) ∧
    (∀ task node, .joined task node ∈ log →
      s.standing l task = .inside node ∧ callsOf task log = [.joined task node] ∨
        s.standing l task = .gone ∧ callsOf task log = [.joined task node, .left task node.id]) ∧
    (joiners log).Nodup ∧
      x.topology.version = x.topology.members.length +
        2 * ((joiners log).filter fun task => s.standing l task = .gone).length := by
  intro log
  obtain ⟨o, tr⟩ := Traced.afterAll (l := l) run
  have b := tr.bracketed found
  refine ⟨b.members, ?_, ?_, ?_, ?_, b.joiners_nodup, b.version_eq⟩
  · intro m t task id h entry
    have next := tr.step o h
    rw [entry, Option.toList_some] at next
    cases after : t.launches[l]? with
    | none => exact absurd (next.fresh after) (by simp)
    | some y =>
        obtain ⟨node, same, own, calls, members⟩ := b.removed (next.bracketed after)
        exact ⟨node, y, same, own, calls, rfl, members⟩
  · intro m t task h entry
    exact State.topology_of_refused h entry found
  · intro task refused
    exact b.refused_gone refused
  · intro task node joined
    exact b.joined_gone joined

/-- An application asks for the id of a member that is there, and that member leaves. -/
def collidingIds : List Move :=
  [.addCluster { name := "cluster" }, .addApplication, .accept 0 { consistentId := some "node" } 2,
    .bind 0, .install 0, .joinSeat 0 0, .joinSeat 0 1,
    .startRun 0 (({ consistentId := some "node-0" } : Config.Node).asClient ["127.0.0.1:47500"])
      "compute.ExceptionGenerationApplication",
    .stepRun 0, .halt 0, .leaveSeat 0 0]

theorem membership_is_bracketed_colliding :
    ∃ s x, State.afterAll? {} collidingIds = some s ∧ s.launches[0]? = some x ∧
      callsOf (.run 0) (State.history 0 {} collidingIds) = [.refused (.run 0)] ∧
        x.topology.version = 3 ∧ x.topology.members.length = 1 := by
  have run : ((State.afterAll? {} collidingIds).bind fun s => s.launches[0]?.map fun x =>
      (x.topology.version, x.topology.members.length)) = some (3, 1) := by decide +kernel
  have refused : .refused (.run 0) ∈ State.history 0 {} collidingIds := by decide +kernel
  obtain ⟨s, run, here⟩ := Option.bind_eq_some_iff.mp run
  obtain ⟨x, found, same⟩ := Option.map_eq_some_iff.mp here
  obtain ⟨-, -, -, alone, -⟩ := membership_is_bracketed run found
  obtain ⟨version, members⟩ := Prod.mk.inj same
  exact ⟨s, x, run, found, (alone _ refused).2, version, members⟩

end ClusterHarness.InProcess
