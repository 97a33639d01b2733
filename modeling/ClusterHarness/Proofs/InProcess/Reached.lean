import ClusterHarness.Proofs.Application.Trial
import ClusterHarness.Proofs.InProcess.Undisturbed

/-! # How far a run has come

What decides how a run ends is what it finds when it joins. At each stage that it can reach from there, the
nodes of its cluster are those that it has found, and itself in between, and each step brings it closer to
its end.
-/

namespace ClusterHarness.InProcess

open Cluster Compute ExceptionGeneration

/-! ## Why a run fails -/

/-- What is made of a job that cannot be sent. It is the first one, as the others fare as it does. -/
def unexpected (failure : Failure) : Error :=
  .assertion ("run Serializable: Unexpected exception has been thrown: " ++ failure.message)

/-- Why a run fails at a cluster, if it does: its id is taken, classes are not shared on both sides, or
there is no other server. -/
def Run.failureAt (x : Run) (t : Topology) : Option Error :=
  if t.hasMember x.member.id then some (.startupFailed t.name (.alreadyInTopology x.member.id))
  else if !x.caller.peerClassLoadingEnabled || !t.config.peerClassLoadingEnabled then
    some (unexpected (.deployment "run" "peer class loading is disabled"))
  else if t.remoteServers x.member.id = [] then some (unexpected .emptyClusterGroup)
  else none

/-- A topology after so many changes of another one, with these nodes. -/
structure Holds (base : Topology) (changes : Nat) (nodes : List Member) (t : Topology) : Prop where
  name : t.name = base.name
  config : t.config = base.config
  version : t.version = base.version + changes
  members : t.members = nodes
  announced : base.announced = base.snapshot → t.announced = t.snapshot

namespace Holds

variable {base t u : Topology} {changes : Nat} {nodes : List Member} {node : Member}

theorem self (t : Topology) : Holds t 0 t.members t := ⟨rfl, rfl, rfl, rfl, id⟩

theorem same (holds : Holds base changes nodes t) (same : SameNodes t u) :
    Holds base changes nodes u where
  name := same.name.trans holds.name
  config := same.config.trans holds.config
  version := same.version.trans holds.version
  members := same.members.trans holds.members
  announced h := by rw [same.announced, same.snapshot, holds.announced h]

theorem join (holds : Holds base changes nodes t) (joined : t.join node = .ok u) :
    node.id ∉ nodes.map Member.id ∧
      Holds base (changes + 1) (Topology.insertMember node nodes) u := by
  have members := Topology.members_of_join joined
  have joined := Topology.join_ok joined
  rw [holds.members] at members
  refine ⟨holds.members ▸ joined.away, ?_⟩
  exact
    { name := joined.name.trans holds.name
      config := joined.config.trans holds.config
      version := joined.version.trans (congrArg (· + 1) holds.version)
      members
      announced _ := joined.announced }

/-- A node that leaves again is missed by nobody. -/
theorem leave (holds : Holds base changes (Topology.insertMember node nodes) t)
    (away : node.id ∉ nodes.map Member.id) :
    Holds base (changes + 1) nodes ((t.leave? node.id).getD t) := by
  have there : node.id ∈ t.members.map Member.id := by
    rw [holds.members, ((Topology.insertMember_perm node nodes).map Member.id).mem_iff]
    simp
  obtain ⟨u, gone, left⟩ := Topology.leave?_of_mem there
  have rest : (Topology.insertMember node nodes).filter (fun m => m.id != node.id) = nodes := by
    rw [Topology.filter_insertMember (by simp), List.filter_eq_self]
    intro m member
    rw [bne_iff_ne]
    exact fun same => away (same ▸ List.mem_map_of_mem member)
  rw [gone, Option.getD_some]
  exact
    { name := left.name.trans holds.name
      config := left.config.trans holds.config
      version := left.version.trans (congrArg (· + 1) holds.version)
      members := by rw [left.members, holds.members, rest]
      announced _ := left.announced }

/-- A node sees the same servers before and after it has joined. -/
theorem remoteServers (holds : Holds base changes (Topology.insertMember node base.members) t) :
    t.remoteServers node.id = base.remoteServers node.id := by
  rw [Topology.remoteServers, holds.members]
  exact Topology.filter_insertMember (by simp) base.members

end Holds

theorem Run.failureAt_of_taken {base : Topology} {x : Run}
    (taken : x.member.id ∈ base.members.map Member.id) :
    x.failureAt base = some (.startupFailed base.name (.alreadyInTopology x.member.id)) := by
  rw [failureAt, if_pos (Topology.hasMember_iff.mpr taken)]

section

variable {base t u : Topology} {x : Run} (away : x.member.id ∉ base.members.map Member.id)
  (holds : Holds base 1 (Topology.insertMember x.member base.members) t)

include away

theorem Run.failureAt_of_away : x.failureAt base =
    if !x.caller.peerClassLoadingEnabled || !base.config.peerClassLoadingEnabled then
      some (unexpected (.deployment "run" "peer class loading is disabled"))
    else if base.remoteServers x.member.id = [] then some (unexpected .emptyClusterGroup)
    else none := by
  rw [failureAt, if_neg (fun there => away (Topology.hasMember_iff.mp there))]

theorem Run.failureAt_of_served {server : Member} (shared : x.caller.peerClassLoadingEnabled = true ∧
    base.config.peerClassLoadingEnabled = true) (there : server ∈ base.remoteServers x.member.id) :
    x.failureAt base = none := by
  have some : base.remoteServers x.member.id ≠ [] := List.ne_nil_of_mem there
  rw [failureAt_of_away away, shared.1, shared.2, if_neg (by simp), if_neg some]

include holds

/-- A job that cannot be sent cannot be sent for the reason for which the run fails. -/
theorem Run.failureAt_of_unsent {trial : Trial} {failure : Failure}
    (unsent : Shipment.send x.caller t trial.toJob = .error failure) :
    x.failureAt base ≠ none ∧ (trial.job = .run → x.failureAt base = some (unexpected failure)) ∧
      ∀ kind, failure.exceptionOf? kind = none := by
  rw [failureAt_of_away away, ← holds.config]
  simp only [Shipment.send] at unsent
  split at unsent
  · rename_i unshared
    cases unsent
    rw [if_pos unshared]
    refine ⟨Option.some_ne_none _, fun first => ?_, fun kind => rfl⟩
    rw [Job.name, Trial.toJob, first]
    rfl
  · rename_i shared
    split at unsent
    · rename_i none
      cases unsent
      have alone : t.remoteServers x.member.id = [] := Topology.nextRemoteServer?_eq_none.mp none
      rw [if_neg shared, if_pos (holds.remoteServers.symm.trans alone)]
      exact ⟨Option.some_ne_none _, fun _ => rfl, fun kind => rfl⟩
    · cases unsent

theorem Run.failureAt_of_sent {trial : Trial} {shipment : Shipment}
    (sent : Shipment.send x.caller t trial.toJob = .ok (shipment, u)) : x.failureAt base = none := by
  rw [failureAt_of_away away, ← holds.config]
  simp only [Shipment.send] at sent
  split at sent
  · cases sent
  · rename_i shared
    split at sent
    · cases sent
    · rename_i server picked
      have some : base.remoteServers x.member.id ≠ [] := by
        rw [← holds.remoteServers]
        intro none
        cases picked.symm.trans (Topology.nextRemoteServer?_eq_none.mpr none)
      rw [if_neg shared, if_neg some]

end

/-! ## The stages of a run -/

/-- A run that has come to a stage, with the mark that it has set by then. -/
def Run.come (x : Run) (progress : Progress) (stage : RunStage) : Run :=
  { x with context := { x.context with progress }, stage }

/-- The mark of a run that has tried all that it could. -/
def markOf (failure : Option Error) : Progress := if failure.isNone then .finished else .initialized

/-- Where a run has come by itself, and what its topology is by then. All of it is relative to the run and
to the topology as they were at first. -/
inductive Reached (base : Topology) (x : Run) : Topology → Run → Prop where
  | spawned {t} (holds : Holds base 0 base.members t) : Reached base x t (x.come .starting .spawned)
  | turnedAway {t} (holds : Holds base 0 base.members t)
      (taken : x.member.id ∈ base.members.map Member.id) :
      Reached base x t (x.come .starting (.ended (x.failureAt base)))
  | trying {t rest} (holds : Holds base 1 (Topology.insertMember x.member base.members) t)
      (away : x.member.id ∉ base.members.map Member.id)
      (well : rest = trials ∨ x.failureAt base = none) :
      Reached base x t (x.come .initialized (.trying rest))
  | sent {t trial shipment rest} (holds : Holds base 1 (Topology.insertMember x.member base.members) t)
      (away : x.member.id ∉ base.members.map Member.id) (well : x.failureAt base = none)
      (payload : shipment.payload = (Job.codec.encode trial.toJob).compact) :
      Reached base x t (x.come .initialized (.sent trial shipment rest))
  | leaving {t} (holds : Holds base 1 (Topology.insertMember x.member base.members) t)
      (away : x.member.id ∉ base.members.map Member.id) :
      Reached base x t (x.come (markOf (x.failureAt base)) (.leaving (x.failureAt base)))
  | left {t} (holds : Holds base 2 base.members t) (away : x.member.id ∉ base.members.map Member.id) :
      Reached base x t (x.come (markOf (x.failureAt base)) (.ended (x.failureAt base)))

namespace Reached

variable {base t u : Topology} {x y : Run}

theorem launch (reached : Reached base x t y) : y.launch = x.launch := by cases reached <;> rfl

theorem same (reached : Reached base x t y) (same : SameNodes t u) : Reached base x u y := by
  cases reached with
  | spawned holds => exact .spawned (holds.same same)
  | turnedAway holds taken => exact .turnedAway (holds.same same) taken
  | trying holds away well => exact .trying (holds.same same) away well
  | sent holds away well payload => exact .sent (holds.same same) away well payload
  | leaving holds away => exact .leaving (holds.same same) away
  | left holds away => exact .left (holds.same same) away

/-- A run that was let in and has ended has left again. -/
theorem left_of_away {failure : Option Error} (reached : Reached base x t y)
    (away : x.member.id ∉ base.members.map Member.id) (ended : y.stage = .ended failure) :
    failure = x.failureAt base ∧ Holds base 2 base.members t := by
  cases reached with
  | turnedAway holds taken => exact absurd taken away
  | left holds away =>
      cases ended
      exact ⟨rfl, holds⟩
  | _ => cases ended

end Reached

/-- A run of a launch has come somewhere by itself. -/
def Halfway (base : Topology) (x : Run) (r : RunId) (s : State) : Prop :=
  ∃ y z, s.launches[x.launch]? = some y ∧ s.runs[r]? = some z ∧ Reached base x y.topology z

namespace Halfway

variable {base topology : Topology} {x z : Run} {y : Launch} {r : RunId} {s t : State} {f : Run → Run}

theorem reached (halfway : Halfway base x r s) (found : s.runs[r]? = some z)
    (target : s.launches[z.launch]? = some y) : Reached base x y.topology z := by
  obtain ⟨w, v, there, same, reached⟩ := halfway
  cases found.symm.trans same
  rw [reached.launch] at target
  cases target.symm.trans there
  exact reached

theorem called (halfway : Halfway base x r s) (found : s.runs[r]? = some z)
    (target : s.launches[z.launch]? = some y) (reached : Reached base x topology (f z)) :
    Halfway base x r ((s.setTopology z.launch topology).updateRun r f) := by
  have same := (halfway.reached found target).launch
  rw [same] at target
  refine ⟨{ y with topology }, f z, ?_, ?_, reached⟩
  · simp [State.updateRun, State.setTopology, State.updateLaunch, same, target]
  · simp [State.updateRun, State.setTopology, State.updateLaunch, found]

theorem went (halfway : Halfway base x r s) (found : s.runs[r]? = some z)
    (target : s.launches[z.launch]? = some y) (reached : Reached base x y.topology (f z)) :
    Halfway base x r (s.updateRun r f) := by
  have same := (halfway.reached found target).launch
  refine ⟨y, f z, same ▸ target, ?_, reached⟩
  simp [State.updateRun, found]

theorem spared (halfway : Halfway base x r s) (spared : Spared x.launch r s t) :
    Halfway base x r t := by
  obtain ⟨y, z, target, found, reached⟩ := halfway
  obtain ⟨w, there, same⟩ := spared.topology target
  exact ⟨w, z, there, spared.run found, reached.same same⟩

theorem step (halfway : Halfway base x r s) (h : s.stepRun? r = some t) : Halfway base x r t := by
  cases Effect.of_stepRun? h with
  | runJoined found target stage room =>
      cases halfway.reached found target with
      | spawned holds =>
          obtain ⟨away, joined⟩ := holds.join room
          exact halfway.called found target (.trying joined away (.inl rfl))
      | _ => cases stage
  | runTurnedAway found target stage taken =>
      cases halfway.reached found target with
      | spawned holds =>
          obtain ⟨there, rfl⟩ := Topology.join_error taken
          have taken : x.member.id ∈ base.members.map Member.id := holds.members ▸ there
          have turned := Reached.turnedAway holds taken
          rw [Run.failureAt_of_taken taken, ← holds.name] at turned
          exact halfway.went found target turned
      | _ => cases stage
  | runFinished found target stage =>
      cases halfway.reached found target with
      | trying holds away well =>
          cases stage
          have fine : x.failureAt base = none := well.resolve_left (List.cons_ne_nil _ _).symm
          have leaving := Reached.leaving holds away
          rw [fine] at leaving
          exact halfway.went found target leaving
      | _ => cases stage
  | runUnsent found target stage failed =>
      cases halfway.reached found target with
      | trying holds away well =>
          cases stage
          obtain ⟨fails, first, other⟩ := Run.failureAt_of_unsent away holds failed
          -- What cannot be sent is the first job, as all others could not be sent either.
          cases well.resolve_right fails
          have leaving := Reached.leaving holds away
          rw [first rfl] at leaving
          rw [State.judged, Trial.judge_of_none _ (other _)]
          exact halfway.went found target leaving
      | _ => cases stage
  | runSent found target stage sent =>
      cases halfway.reached found target with
      | trying holds away well =>
          have fine := Run.failureAt_of_sent away holds sent
          obtain ⟨rfl, payload⟩ := Shipment.send_ok sent
          exact halfway.called found target (.sent (holds.same (.picked _ _)) away fine payload)
      | _ => cases stage
  | runJudged found target stage =>
      cases halfway.reached found target with
      | sent holds away well payload =>
          cases stage
          rw [State.judged, Shipment.answer_of_payload payload, Trial.judge_thrownOn]
          exact halfway.went found target (.trying holds away (.inr well))
      | _ => cases stage
  | runLeft found target stage =>
      cases halfway.reached found target with
      | leaving holds away =>
          cases stage
          exact halfway.called found target (.left (holds.leave away) away)
      | _ => cases stage

end Halfway

/-! ## What is left to do -/

/-- One step of a run, as far as its stage goes. -/
inductive Onward : RunStage → RunStage → Prop where
  | joined : Onward .spawned (.trying trials)
  | turnedAway {e} : Onward .spawned (.ended (some e))
  | finished : Onward (.trying []) (.leaving none)
  | sent {trial shipment rest} : Onward (.trying (trial :: rest)) (.sent trial shipment rest)
  /-- No job fares so. The count of steps need not know why. -/
  | skipped {trial rest} : Onward (.trying (trial :: rest)) (.trying rest)
  | unsent {trial rest e} : Onward (.trying (trial :: rest)) (.leaving (some e))
  | passed {trial shipment rest} : Onward (.sent trial shipment rest) (.trying rest)
  | failed {trial shipment rest e} : Onward (.sent trial shipment rest) (.leaving (some e))
  | left {failure} : Onward (.leaving failure) (.ended failure)

namespace RunStage

/-- How many steps a run takes from a stage at most. -/
def left : RunStage → Nat
  | .spawned => 2 * trials.length + 3
  | .trying rest => 2 * rest.length + 2
  | .sent _ _ rest => 2 * rest.length + 3
  | .leaving _ => 1
  | .ended _ => 0

/-- How many of them it takes at most before it pauses. -/
def strides : RunStage → Nat
  | .spawned => trials.length + 3
  | .trying rest => rest.length + 2
  | .leaving _ => 1
  | .sent .. | .ended _ => 0

/-- How many turns a run has from a stage at most. -/
def turns : RunStage → Nat
  | .spawned => trials.length + 1
  | .trying rest | .sent _ _ rest => rest.length + 1
  | .leaving _ => 1
  | .ended _ => 0

theorem turns_eq_zero {stage : RunStage} : stage.turns = 0 ↔ ∃ failure, stage = .ended failure := by
  cases stage <;> simp [turns]

theorem turns_le_of_left {stage : RunStage} (few : stage.left ≤ 2 * trials.length + 3) :
    stage.turns ≤ trials.length + 1 := by
  cases stage with
  | trying rest | sent trial shipment rest => simp only [left, turns] at few ⊢; omega
  | spawned | leaving | ended => simp [turns]

end RunStage

namespace Onward

variable {a b : RunStage}

theorem unsent_judged (trial : Trial) (rest : List Trial) (answer : Answer) :
    Onward (.trying (trial :: rest)) (State.judged trial rest answer) := by
  rw [State.judged]
  cases trial.judge answer with
  | ok => exact .skipped
  | error e => exact .unsent

theorem sent_judged (trial : Trial) (shipment : Shipment) (rest : List Trial) (answer : Answer) :
    Onward (.sent trial shipment rest) (State.judged trial rest answer) := by
  rw [State.judged]
  cases trial.judge answer with
  | ok => exact .passed
  | error e => exact .failed

theorem left_lt (onward : Onward a b) : b.left < a.left := by
  cases onward with
  | sent => simp only [RunStage.left, List.length_cons]; omega
  | _ => simp [RunStage.left]

theorem strides_lt (onward : Onward a b) (going : a.strides ≠ 0) : b.strides < a.strides := by
  cases onward with
  | passed | failed => exact absurd rfl going
  | _ => simp [RunStage.strides]

theorem strides_le (onward : Onward a b) : b.strides ≤ a.turns + 1 := by
  cases onward <;> simp [RunStage.strides, RunStage.turns]

theorem turns_le (onward : Onward a b) : b.turns ≤ a.turns := by
  cases onward <;> simp [RunStage.turns]

/-- A run that pauses has one turn less. -/
theorem turns_lt (onward : Onward a b) (pauses : b.strides = 0) : b.turns < a.turns := by
  cases onward with
  | turnedAway | sent | left => simp [RunStage.turns]
  | _ => cases pauses

end Onward

namespace State

variable {s t : State} {r : RunId} {x : Run}

/-- A step of a run changes the run, and the topology that it is attached to at most. -/
theorem onward_of_stepRun? (h : s.stepRun? r = some t) :
    ∃ x topology f, s.runs[r]? = some x ∧ (∀ y : Run, (f y).launch = y.launch) ∧
      t = (s.setTopology x.launch topology).updateRun r f ∧ Onward x.stage (f x).stage := by
  have still {x : Run} {y : Launch} (target : s.launches[x.launch]? = some y) :
      s.setTopology x.launch y.topology = s := updateLaunch_self target rfl
  cases Effect.of_stepRun? h with
  | runJoined found target stage room =>
      refine ⟨_, _, fun x => { x with context := x.context.initialized, stage := .trying trials }, found,
        fun _ => rfl, rfl, ?_⟩
      exact stage ▸ .joined
  | @runTurnedAway _ x y e found target stage taken =>
      refine ⟨_, y.topology, fun x => { x with stage := .ended (some e) }, found, fun _ => rfl, ?_, ?_⟩
      · exact congrArg (setRun · r _) (still target).symm
      · exact stage ▸ .turnedAway
  | @runFinished _ x y found target stage =>
      refine ⟨_, y.topology, fun x => { x with context := x.context.finished, stage := .leaving none },
        found, fun _ => rfl, ?_, ?_⟩
      · exact congrArg (updateRun · r _) (still target).symm
      · exact stage ▸ .finished
  | @runUnsent _ x y trial rest failure found target stage failed =>
      refine ⟨_, y.topology, fun x => { x with stage := judged trial rest (.error failure) }, found,
        fun _ => rfl, ?_, ?_⟩
      · exact congrArg (setRun · r _) (still target).symm
      · exact stage ▸ .unsent_judged ..
  | runSent found target stage sent =>
      refine ⟨_, _, fun x => { x with stage := .sent _ _ _ }, found, fun _ => rfl, rfl, ?_⟩
      exact stage ▸ .sent
  | @runJudged _ x y trial shipment rest found target stage =>
      refine ⟨_, y.topology, fun x => { x with stage := judged trial rest shipment.answer }, found,
        fun _ => rfl, ?_, ?_⟩
      · exact congrArg (setRun · r _) (still target).symm
      · exact stage ▸ .sent_judged ..
  | runLeft found target stage =>
      refine ⟨_, _, fun x => { x with stage := .ended _ }, found, fun _ => rfl, rfl, ?_⟩
      exact stage ▸ .left

/-- A run can always go on until it has ended. -/
theorem stepRun?_of_going {y : Launch} (found : s.runs[r]? = some x)
    (target : s.launches[x.launch]? = some y) (going : ∀ failure, x.stage ≠ .ended failure) :
    ∃ t, s.stepRun? r = some t := by
  cases stage : x.stage with
  | spawned =>
      cases room : y.topology.join x.member <;> simp [stepRun?, found, target, stage, room]
  | trying rest =>
      cases rest with
      | nil => simp [stepRun?, found, target, stage]
      | cons trial rest =>
          cases sent : Shipment.send x.caller y.topology trial.toJob <;>
            simp [stepRun?, found, target, stage, sent]
  | sent | leaving => simp [stepRun?, found, target, stage]
  | ended failure => exact absurd stage (going failure)

end State

/-! ## What a caller is told -/

/-- What the caller is told of a run that has ended. -/
def Run.told (x : Run) (failure : Option Error) : Except Error Unit :=
  match failure with
  | none => .ok ()
  | some e => .error (.applicationFailed x.application.entryPoint e.message)

theorem State.runResult?_of_ended {s : State} {r : RunId} {x : Run} {failure : Option Error}
    (found : s.runs[r]? = some x) (ended : x.stage = .ended failure) :
    s.runResult? r = some (x.told failure) := by
  cases failure <;> simp [State.runResult?, found, ended, Run.told]

theorem State.ended_of_runResult? {s : State} {r : RunId} {x : Run} (found : s.runs[r]? = some x)
    (told : (s.runResult? r).isSome = true) : ∃ failure, x.stage = .ended failure := by
  cases stage : x.stage with
  | ended failure => exact ⟨failure, rfl⟩
  | _ => simp [State.runResult?, found, stage] at told

end ClusterHarness.InProcess
