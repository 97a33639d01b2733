import ClusterHarness.Proofs.InProcess.Attending

/-! # How an application ends

An application is told of the first thing that it lacks at the cluster that it finds, and ends well if it
lacks nothing. Whatever it is told, it leaves the nodes of the cluster as it has found them.
-/

namespace ClusterHarness.InProcess

open Cluster Compute ExceptionGeneration

/-! ## What a caller is told -/

/-- What a caller is told of an application that has failed for a reason. -/
def failedFor (reason : String) : Except Error Unit :=
  .error (.applicationFailed Application.exceptionGeneration.entryPoint reason)

/-- What comes of an application with a configuration and an id at a cluster: what its caller is told, the
mark that it leaves, and how often it changes the nodes. -/
inductive Ending (base : Topology) (config : Config.Node) (id : String) :
    Except Error Unit → Progress → Nat → Prop where
  | refused (taken : id ∈ base.members.map Member.id) :
      Ending base config id
        (failedFor ("Failed to start " ++ base.name ++ ": node " ++ id ++ " is already in topology"))
        .starting 0
  | unshared (away : id ∉ base.members.map Member.id)
      (off : config.peerClassLoadingEnabled = false ∨ base.config.peerClassLoadingEnabled = false) :
      Ending base config id
        (failedFor ("Assertion failed: run Serializable: Unexpected exception has been thrown: "
          ++ "Failed to deploy job run: peer class loading is disabled"))
        .initialized 2
  | alone (away : id ∉ base.members.map Member.id)
      (shared : config.peerClassLoadingEnabled = true ∧ base.config.peerClassLoadingEnabled = true)
      (nobody : ∀ m ∈ base.members, m.client = false → m.id = id) :
      Ending base config id
        (failedFor ("Assertion failed: run Serializable: Unexpected exception has been thrown: "
          ++ "Cluster group is empty"))
        .initialized 2
  | served (away : id ∉ base.members.map Member.id)
      (shared : config.peerClassLoadingEnabled = true ∧ base.config.peerClassLoadingEnabled = true)
      (somebody : ∃ m ∈ base.members, m.client = false ∧ m.id ≠ id) :
      Ending base config id (.ok ()) .finished 2

/-- An application has ended at a cluster, with what it lacked there as the only reason to fail, and has
left the nodes as they were. -/
structure Concludes (base : Topology) (config : Config.Node) (id : String) (result : Except Error Unit)
    (mark : Progress) (t : Topology) : Prop where
  ok : result = .ok () ↔ id ∉ base.members.map Member.id ∧
    (config.peerClassLoadingEnabled = true ∧ base.config.peerClassLoadingEnabled = true) ∧
      ∃ m ∈ base.members, m.client = false ∧ m.id ≠ id
  ending : ∃ changes, Ending base config id result mark changes ∧ t.version = base.version + changes
  members : t.members = base.members

theorem Ending.ok_iff {base : Topology} {config : Config.Node} {id : String} {result : Except Error Unit}
    {mark : Progress} {changes : Nat} (ending : Ending base config id result mark changes) :
    result = .ok () ↔ id ∉ base.members.map Member.id ∧
      (config.peerClassLoadingEnabled = true ∧ base.config.peerClassLoadingEnabled = true) ∧
        ∃ m ∈ base.members, m.client = false ∧ m.id ≠ id := by
  cases ending with
  | refused taken => exact ⟨nofun, fun lacks => absurd taken lacks.1⟩
  | unshared away off =>
      refine ⟨nofun, fun ⟨_, ⟨mine, theirs⟩, _⟩ => ?_⟩
      rcases off with off | off
      · cases off.symm.trans mine
      · cases off.symm.trans theirs
  | alone away shared nobody =>
      exact ⟨nofun, fun ⟨_, _, m, there, server, other⟩ => absurd (nobody m there server) other⟩
  | served away shared somebody => exact ⟨fun _ => ⟨away, shared, somebody⟩, fun _ => rfl⟩

theorem message_alreadyInTopology (name id : String) :
    (Error.startupFailed name (.alreadyInTopology id)).message =
      "Failed to start " ++ name ++ ": node " ++ id ++ " is already in topology" := by
  have apart (a b c d e f : String) : a ++ b ++ c ++ (d ++ e ++ f) = a ++ b ++ (c ++ d) ++ e ++ f := by
    simp only [String.append_assoc]
  exact apart "Failed to start " name ": " "node " id " is already in topology"

theorem Run.ending_of_taken {base : Topology} {x : Run} (taken : x.member.id ∈ base.members.map Member.id) :
    Ending base x.context.config x.context.nodeId (x.told (x.failureAt base)) .starting 0 := by
  have text := message_alreadyInTopology base.name x.member.id
  rw [failureAt_of_taken taken, told, text]
  exact .refused taken

/-- A run that is not turned away ends as it must at the cluster that it has found. -/
theorem Run.ending_of_away {base : Topology} {x : Run} (away : x.member.id ∉ base.members.map Member.id) :
    Ending base x.context.config x.context.nodeId (x.told (x.failureAt base))
      (markOf (x.failureAt base)) 2 := by
  rw [failureAt_of_away away]
  split
  · rename_i unshared
    have off : x.context.config.peerClassLoadingEnabled = false ∨
        base.config.peerClassLoadingEnabled = false := by
      simpa [Run.caller] using unshared
    exact .unshared away off
  · rename_i shared
    have shared : x.context.config.peerClassLoadingEnabled = true ∧
        base.config.peerClassLoadingEnabled = true := by
      simpa [Run.caller] using shared
    have servers {m : Member} : m ∈ base.remoteServers x.member.id ↔
        m ∈ base.members ∧ m.client = false ∧ m.id ≠ x.member.id := by
      simp [Topology.remoteServers]
    split
    · rename_i none
      refine .alone away shared fun m there server => ?_
      by_contra other
      have listed := servers.mpr ⟨there, server, other⟩
      rw [none] at listed
      cases listed
    · rename_i some
      obtain ⟨m, listed⟩ := List.exists_mem_of_ne_nil _ some
      exact .served away shared ⟨m, servers.mp listed⟩

theorem Reached.concludes {base t : Topology} {x z : Run} {failure : Option Error}
    (reached : Reached base x t z) (ended : z.stage = .ended failure) :
    Concludes base x.context.config x.context.nodeId (z.told failure) z.context.progress t := by
  cases reached with
  | turnedAway holds taken =>
      cases ended
      have ending := Run.ending_of_taken taken
      exact ⟨ending.ok_iff, ⟨0, ending, holds.version⟩, holds.members⟩
  | left holds away =>
      cases ended
      have ending := Run.ending_of_away away
      exact ⟨ending.ok_iff, ⟨2, ending, holds.version⟩, holds.members⟩
  | _ => cases ended

/-! ## The wait for an application -/

section

variable {s t u : State} {a : AppId} {config : Config.Node} {l : LaunchId} {x : Launch} {n : Nat}

theorem State.withRun_of_startRun (target : s.discover .exceptionGeneration config = .ok (l, x))
    (started : s.startRun a config Application.exceptionGeneration.entryPoint = .ok t) :
    t = s.withRun a (s.newRun config l) := by
  cases Effect.of_startRun started with
  | @runStarted _ _ _ application _ k y found known idle =>
      cases application
      cases target.symm.trans found
      rfl

/-- A run that nobody disturbs has come somewhere, with so many steps less to take. -/
theorem Undisturbed.halfway (target : s.discover .exceptionGeneration config = .ok (l, x))
    (started : s.startRun a config Application.exceptionGeneration.entryPoint = .ok t)
    (undisturbed : Undisturbed l s.runs.length t n u) :
    Halfway x.topology (s.newRun config l) s.runs.length u ∧
      ∀ z, u.runs[s.runs.length]? = some z → n + z.stage.left ≤ 2 * trials.length + 3 := by
  have there := State.discover_ok target
  cases State.withRun_of_startRun target started
  have last : (s.withRun a (s.newRun config l)).runs[s.runs.length]? = some (s.newRun config l) := by
    simp [State.withRun]
  refine undisturbed.invariant (P := fun n u =>
    Halfway x.topology (s.newRun config l) s.runs.length u ∧
      ∀ z, u.runs[s.runs.length]? = some z → n + z.stage.left ≤ 2 * trials.length + 3) ?_ ?_ ?_
  · refine ⟨⟨x, _, there, last, .spawned (.self _)⟩, fun z found => ?_⟩
    cases last.symm.trans found
    exact Nat.le_of_eq (Nat.zero_add _)
  · rintro n t u ⟨halfway, few⟩ step
    refine ⟨halfway.step step, fun z found => ?_⟩
    obtain ⟨w, topology, f, old, -, rfl, onward⟩ := State.onward_of_stepRun? step
    have new : ((t.setTopology w.launch topology).updateRun s.runs.length f).runs[s.runs.length]? =
        some (f w) := by
      simp [State.updateRun, State.setTopology, State.updateLaunch, old]
    cases new.symm.trans found
    have before := few w old
    have fewer := onward.left_lt
    omega
  · rintro n t u ⟨halfway, few⟩ spared
    refine ⟨halfway.spared spared, fun z found => ?_⟩
    obtain ⟨y, w, -, old, -⟩ := halfway
    cases (spared.run old).symm.trans found
    exact few z old

end

/-- However a run and everybody else take turns, as long as only the run changes the nodes of the cluster
that it has found, it can go on until it has ended, it ends after so many steps at most, and its caller is
then told what it lacked there, if anything. The wait for it takes no time while nobody else is about to
touch the cluster. -/
theorem application_verdict {s t u : State} {a : AppId} {config : Config.Node} {l : LaunchId}
    {x : Launch} {n : Nat} (target : s.discover .exceptionGeneration config = .ok (l, x))
    (started : s.startRun a config Application.exceptionGeneration.entryPoint = .ok t)
    (undisturbed : Undisturbed l s.runs.length t n u) :
    let r := s.runs.length
    let Concluded := Concludes x.topology config (config.consistentId.getD (s.freshId "app" 0))
    (∀ result, u.runResult? r = some result → ∃ y z, u.launches[l]? = some y ∧ u.runs[r]? = some z ∧
      Concluded result z.context.progress y.topology) ∧
    n ≤ 2 * trials.length + 3 ∧ (u.runResult? r = none → ∃ v, u.stepRun? r = some v) ∧
    (u.applications[a]? = some ⟨some r, some r⟩ → (∀ k ≠ r, u.LeavesAlone l k) →
      (∀ y, u.launches[l]? = some y → y.Rests u.now) →
        ∃ result mark y v, (u.awaitStopped a).finish = some ⟨result, 0, v⟩ ∧ v.progress? a = some mark ∧
          v.launches[l]? = some y ∧ Concluded result mark y.topology) := by
  intro r Concluded
  obtain ⟨⟨y, z, there, found, reached⟩, few⟩ := undisturbed.halfway target started
  have bound := few z found
  have attached : z.launch = l := reached.launch
  refine ⟨fun result told => ?_, Nat.le_of_add_right_le bound, fun going => ?_,
    fun known others rests => ?_⟩
  · obtain ⟨failure, ended⟩ := State.ended_of_runResult? found (Option.isSome_of_eq_some told)
    cases told.symm.trans (State.runResult?_of_ended found ended)
    exact ⟨y, z, there, found, reached.concludes ended⟩
  · refine State.stepRun?_of_going found (attached ▸ there) fun failure ended => ?_
    cases (State.runResult?_of_ended found ended).symm.trans going
  · let waiting := u.updateApplication a fun m => { m with running := none }
    have taken : u.takeRun? a = some (r, waiting) := by simp [State.takeRun?, known, waiting]
    have attending : Attending l r y z waiting := ⟨there, found, attached, others⟩
    have turns := RunStage.turns_le_of_left (Nat.le_of_add_left_le bound)
    obtain ⟨y', z', failure, v, finish, ended, nears, attending', later⟩ :=
      Attending.awaitStopped_finish taken attending reached (rests y there) turns
    have latest : v.applications[a]? = some ⟨none, some r⟩ := by
      simp [later.applications, waiting, State.updateApplication, known]
    have marked : v.progress? a = some z'.context.progress := by
      simp [State.progress?, latest, attending'.run]
    exact ⟨z'.told failure, _, y', v, finish, marked, attending'.launch, nears.reached.concludes ended⟩

/-- A cluster of two servers, and an application that is not running. -/
def hosting : State where
  network := ⟨[("127.0.0.1:47500", 0), ("127.0.0.1:47501", 0)]⟩
  clusters := [{ name := "ignite", running := some 0 }]
  launches :=
    [{ cluster := 0
       topology :=
         { name := "ignite", config := { peerClassLoadingEnabled := true }, version := 2
           members := [{ id := "a", address := some "127.0.0.1:47500" },
             { id := "b", address := some "127.0.0.1:47501" }]
           announced := ⟨2, 2, 0⟩ }
       seats := [{ member := { id := "a", address := some "127.0.0.1:47500" }, stage := .joined },
         { member := { id := "b", address := some "127.0.0.1:47501" }, stage := .joined }]
       phase := .live }]
  applications := [{}]

/-- A client whose place in the topology is between the two servers. -/
def visitor : Config.Node :=
  ({ consistentId := some "aa", peerClassLoadingEnabled := true } : Config.Node).asClient
    ["127.0.0.1:47501"]

/-- The client has joined and sent its first job, and some time has passed in between. -/
def visited : State :=
  (hosting.afterAll? [.startRun 0 visitor Application.exceptionGeneration.entryPoint, .stepRun 0,
    .pass 7, .stepRun 0]).getD {}

theorem application_verdict_visited :
    ∃ t v y, hosting.startRun 0 visitor Application.exceptionGeneration.entryPoint = .ok t ∧
      Undisturbed 0 0 t 2 visited ∧ (visited.awaitStopped 0).finish = some ⟨.ok (), 0, v⟩ ∧
      v.progress? 0 = some .finished ∧ v.launches[0]? = some y ∧ y.topology.version = 4 ∧
      y.topology.members.map Member.id = ["a", "b"] := by
  have went : hosting.afterAll? _ = some visited := State.afterAll?_getD (by decide +kernel)
  obtain ⟨t, first, went⟩ := State.afterAll?_cons.mp went
  obtain ⟨u₁, joined, went⟩ := State.afterAll?_cons.mp went
  obtain ⟨u₂, passed, went⟩ := State.afterAll?_cons.mp went
  obtain ⟨u₃, sent, went⟩ := State.afterAll?_cons.mp went
  cases went
  have started : hosting.startRun 0 visitor Application.exceptionGeneration.entryPoint = .ok t := by
    rw [State.after?] at first
    cases h : hosting.startRun 0 visitor Application.exceptionGeneration.entryPoint with
    | ok v => rw [h] at first; cases first; rfl
    | error e => rw [h] at first; cases first
  have target : hosting.discover .exceptionGeneration visitor = .ok (0, _) := rfl
  have undisturbed : Undisturbed 0 0 t 2 visited := by
    cases passed
    exact .own (.other (m := .pass 7) (.own .start joined) (by simp) rfl rfl) sent
  obtain ⟨-, -, -, call⟩ := application_verdict target started undisturbed
  have runs : visited.runs.length = 1 := by decide +kernel
  have seats : visited.launches[0]?.map (fun y => (y.shutdown, y.seats.map Seat.stage)) =
      some (false, [.joined, .joined]) := by decide +kernel
  have others : ∀ k ≠ 0, visited.LeavesAlone 0 k := by
    intro k hk x found
    have first : k < 1 := runs ▸ (List.getElem?_eq_some_iff.mp found).1
    exact absurd (Nat.lt_one_iff.mp first) hk
  have rests : ∀ y, visited.launches[0]? = some y → y.Rests visited.now := by
    intro y there seat member
    rw [there, Option.map_some, Option.some.injEq, Prod.mk.injEq] at seats
    have stage : seat.stage ∈ [SeatStage.joined, .joined] := seats.2 ▸ List.mem_map_of_mem member
    have joined : seat.stage = .joined := by simpa using stage
    simp [Seat.Rests, joined, seats.1]
  obtain ⟨result, mark, y, v, finish, marked, there, concludes⟩ := call (by decide +kernel) others rests
  have ok := concludes.ok.mpr ⟨by decide, by decide, by decide⟩
  obtain ⟨changes, ending, version⟩ := concludes.ending
  rw [ok] at finish ending
  cases ending
  exact ⟨t, v, y, started, undisturbed, finish, marked, there, version, by rw [concludes.members]; rfl⟩

end ClusterHarness.InProcess
