import ClusterHarness.Proofs.InProcess.Membership
import ClusterHarness.Proofs.InProcess.Plan

/-! # When a start is over

A start call waits for as many servers as its launch has members, and does not look which servers they
are. As long as no application comes as a server they are its own members. A member that is refused
never comes, and one is refused only for an id that another task has. So a start call whose members
have their ids for themselves can always come to its end until the cluster is stopped.
-/

namespace ClusterHarness.InProcess

open Cluster Compute

/-! ## Counting servers -/

/-- Whether a task that stands here counts as a server. -/
def Standing.serves : Standing → Bool
  | .inside node => !node.client
  | _ => false

/-- The nodes in the topology of some tasks. -/
def Standing.nodes (standing : Task → Standing) (tasks : List Task) : List (Task × Member) :=
  tasks.filterMap fun task =>
    match standing task with
    | .inside node => some (task, node)
    | _ => none

theorem Standing.mem_nodes {standing : Task → Standing} {tasks : List Task} {task : Task}
    {node : Member} :
    (task, node) ∈ nodes standing tasks ↔ task ∈ tasks ∧ standing task = .inside node := by
  rw [nodes, List.mem_filterMap]
  constructor
  · rintro ⟨other, member, found⟩
    split at found
    · rename_i inside
      cases found
      exact ⟨member, inside⟩
    · cases found
  · rintro ⟨member, inside⟩
    exact ⟨task, member, by rw [inside]⟩

theorem Standing.nodes_nodup {standing : Task → Standing} {tasks : List Task} (h : tasks.Nodup) :
    (nodes standing tasks).Nodup := by
  refine List.Nodup.filterMap ?_ h
  rintro a b ⟨task, node⟩ first second
  split at first <;> split at second <;> cases first <;> cases second
  rfl

theorem Standing.countP_nodes (standing : Task → Standing) (tasks : List Task) :
    ((nodes standing tasks).map Prod.snd).countP (fun m => !m.client) =
      tasks.countP fun task => (standing task).serves := by
  rw [List.countP_map, nodes, List.countP_filterMap]
  congr
  funext task
  cases standing task <;> rfl

theorem countP_range {α : Type} {l : List α} {p : α → Bool} {q : Nat → Bool}
    (h : ∀ {i : Nat} {a : α}, l[i]? = some a → q i = p a) : (List.range l.length).countP q = l.countP p := by
  induction l using List.reverseRecOn with
  | nil => rfl
  | append_singleton l a ih =>
      have front : ∀ {i : Nat} {b : α}, l[i]? = some b → q i = p b := fun found =>
        h ((List.getElem?_append_left (List.getElem?_eq_some_iff.mp found).1).trans found)
      have last : q l.length = p a := h List.getElem?_concat_length
      rw [List.length_append, List.length_singleton, List.range_succ, List.countP_append,
        List.countP_append, ih front, List.countP_singleton, List.countP_singleton, last]

/-- The tasks of a process that may have to do with a launch. -/
def State.tasks (s : State) (x : Launch) : List Task :=
  (List.range x.seats.length).map .seat ++ (List.range s.runs.length).map .run

theorem State.tasks_nodup (s : State) (x : Launch) : (s.tasks x).Nodup := by
  refine List.nodup_append.mpr ⟨?_, ?_, ?_⟩
  · exact List.nodup_range.map fun i j => Task.seat.inj
  · exact List.nodup_range.map fun i j => Task.run.inj
  · rintro _ seat _ run rfl
    obtain ⟨i, -, rfl⟩ := List.mem_map.mp seat
    obtain ⟨r, -, run⟩ := List.mem_map.mp run
    cases run

theorem State.mem_tasks {s : State} {l : LaunchId} {x : Launch} (found : s.launches[l]? = some x)
    {task : Task} {node : Member} (inside : s.standing l task = .inside node) : task ∈ s.tasks x := by
  cases task with
  | seat i =>
      cases seated : x.seats[i]? with
      | none => simp [standing, found, seated] at inside
      | some seat => simp [tasks, (List.getElem?_eq_some_iff.mp seated).1]
  | run r =>
      cases there : s.runs[r]? with
      | none => simp [standing, there] at inside
      | some y => simp [tasks, (List.getElem?_eq_some_iff.mp there).1]

/-- The servers in the topology of a launch are its own members that are there, and applications that
came as servers. -/
theorem Bracketed.servers_eq {s : State} {l : LaunchId} {x : Launch} {log : List Entry}
    (b : Bracketed (s.standing l) x.topology log) (found : s.launches[l]? = some x) :
    x.topology.snapshot.servers = x.seats.countP (fun seat => seat.standing.serves) +
      s.runs.countP fun y => y.launch = l && y.standing.serves := by
  have same : (present log).Perm (Standing.nodes (s.standing l) (s.tasks x)) := by
    refine (List.perm_ext_iff_of_nodup (.of_map _ b.present_distinct)
      (Standing.nodes_nodup (s.tasks_nodup x))).mpr ?_
    rintro ⟨task, node⟩
    rw [b.owner, Standing.mem_nodes]
    exact ⟨fun inside => ⟨State.mem_tasks found inside, inside⟩, And.right⟩
  have seats : (List.range x.seats.length).countP (fun i => (s.standing l (.seat i)).serves) =
      x.seats.countP fun seat => seat.standing.serves :=
    countP_range fun seated => by rw [State.standing_seat found seated]
  have runs : (List.range s.runs.length).countP (fun r => (s.standing l (.run r)).serves) =
      s.runs.countP fun y => y.launch = l && y.standing.serves := by
    refine countP_range fun {r y} there => ?_
    by_cases here : y.launch = l
    · simp [State.standing_run there here, here]
    · simp [State.standing, there, here, Standing.serves]
  have nodes := b.members.trans (same.map Prod.snd)
  rw [Topology.snapshot, nodes.countP_eq, Standing.countP_nodes, State.tasks, List.countP_append,
    List.countP_map, List.countP_map]
  exact congrArg₂ (· + ·) seats runs

/-! ## Why a member does not come -/

def Launch.ids (x : Launch) : List String := x.seats.map fun seat => seat.member.id

/-- Whether another member of a launch, or an application that has found it, has an id. -/
def State.HasRival (s : State) (l : LaunchId) (x : Launch) (i : Nat) (id : String) : Prop :=
  (∃ j, j ≠ i ∧ x.ids[j]? = some id) ∨ ∃ y ∈ s.runs, y.launch = l ∧ y.member.id = id

/-- What a launch is in every state: all its members are servers, it announces what there is, and a
member that has ended was told to leave or has a rival for its id. -/
structure State.Explains (s : State) (l : LaunchId) (x : Launch) : Prop where
  servers : ∀ seat ∈ x.seats, seat.member.client = false
  announced : x.topology.announced = x.topology.snapshot
  begun : x.phase = .waiting → ∀ seat ∈ x.seats, seat.stage ≠ .planned
  ended : ∀ {i : Nat} {seat : Seat} {hadJoined : Bool}, x.seats[i]? = some seat →
    seat.stage = .ended hadJoined → x.shutdown = true ∨ s.HasRival l x i seat.member.id

namespace State.Explains

variable {s t : State} {l : LaunchId} {x : Launch}

theorem planned {c : ClusterId} {cluster : ManagedCluster} {config : Config.Node} {nodes : Nat}
    {freshId : Nat → String} :
    s.Explains l (.planned c cluster config ((List.range nodes).map (cluster.memberAt config freshId))) where
  servers seat member := by
    simp only [Launch.planned, List.map_map, List.mem_map] at member
    obtain ⟨i, -, rfl⟩ := member
    rfl
  announced := rfl
  begun := by
    intro waiting
    cases waiting
  ended found ended := by
    obtain ⟨member, -, rfl⟩ := List.mem_map.mp (List.mem_of_getElem? found)
    cases ended

/-- Applications may be started, and go on without another id. -/
theorem mono (e : s.Explains l x)
    (runs : ∀ y ∈ s.runs, ∃ z ∈ t.runs, z.launch = y.launch ∧ z.member.id = y.member.id) :
    t.Explains l x where
  servers := e.servers
  announced := e.announced
  begun := e.begun
  ended found ended := by
    rcases e.ended found ended with told | (other | ⟨y, member, here, same⟩)
    · exact .inl told
    · exact .inr (.inl other)
    · obtain ⟨z, there, launch, id⟩ := runs y member
      exact .inr (.inr ⟨z, there, launch.trans here, id.trans same⟩)

theorem setPhase (e : s.Explains l x) {phase : StartPhase} (other : phase ≠ .waiting) :
    s.Explains l { x with phase } :=
  ⟨e.servers, e.announced, fun waiting => absurd waiting other, e.ended⟩

theorem setTopology (e : s.Explains l x) {topology : Topology}
    (announced : topology.announced = topology.snapshot) : s.Explains l { x with topology } :=
  ⟨e.servers, announced, e.begun, e.ended⟩

theorem halt (e : s.Explains l x) : s.Explains l { x with shutdown := true } :=
  ⟨e.servers, e.announced, e.begun, fun _ _ => .inl rfl⟩

theorem seated (e : s.Explains l x) (time : Nat) : s.Explains l (x.seated time) where
  servers seat member := by
    obtain ⟨before, there, rfl⟩ := List.mem_map.mp member
    exact e.servers before there
  announced := e.announced
  begun _ seat member planned := by
    obtain ⟨before, -, rfl⟩ := List.mem_map.mp member
    cases planned
  ended found ended := by
    obtain ⟨before, -, rfl⟩ := List.mem_map.mp (List.mem_of_getElem? found)
    cases ended

/-- The task of a member goes on. -/
theorem setSeat (e : s.Explains l x) {i : Nat} {seat : Seat} {stage : SeatStage}
    (seated : x.seats[i]? = some seat) (begun : stage ≠ .planned)
    (reason : ∀ hadJoined, stage = .ended hadJoined →
      x.shutdown = true ∨ s.HasRival l x i seat.member.id) :
    s.Explains l { x with seats := x.seats.modify i fun seat => { seat with stage } } := by
  have ids : Launch.ids { x with seats := x.seats.modify i fun seat => { seat with stage } } = x.ids :=
    map_modify_of_same _ _ fun _ => rfl
  refine ⟨?_, e.announced, ?_, ?_⟩
  · intro other member
    obtain ⟨k, found⟩ := List.mem_iff_getElem?.mp member
    rcases of_getElem?_modify seated found with ⟨-, rfl⟩ | found
    · exact e.servers seat (List.mem_of_getElem? seated)
    · exact e.servers other (List.mem_of_getElem? found)
  · intro waiting other member
    obtain ⟨k, found⟩ := List.mem_iff_getElem?.mp member
    rcases of_getElem?_modify seated found with ⟨-, rfl⟩ | found
    · exact begun
    · exact e.begun waiting other (List.mem_of_getElem? found)
  · intro k other hadJoined found ended
    rw [HasRival, ids]
    rcases of_getElem?_modify seated found with ⟨rfl, rfl⟩ | found
    · exact reason hadJoined ended
    · exact e.ended found ended

theorem joinSeat (e : s.Explains l x) {i : Nat} {seat : Seat} (seated : x.seats[i]? = some seat) :
    s.Explains l { x with seats := x.seats.modify i fun seat => { seat with stage := .joined } } :=
  e.setSeat seated (by simp) (by simp)

theorem endSeat (e : s.Explains l x) {i : Nat} {seat : Seat} {hadJoined : Bool}
    (seated : x.seats[i]? = some seat)
    (reason : x.shutdown = true ∨ s.HasRival l x i seat.member.id) :
    s.Explains l { x with seats := x.seats.modify i fun seat => { seat with stage := .ended hadJoined } } :=
  e.setSeat seated (by simp) fun _ _ => reason

end State.Explains

/-- A member is refused for an id that the node of another task has. -/
theorem Bracketed.rival_of_refused {s : State} {l : LaunchId} {x : Launch} {log : List Entry} {i : Nat}
    {seat : Seat} {e : Error} (b : Bracketed (s.standing l) x.topology log)
    (found : s.launches[l]? = some x) (seated : x.seats[i]? = some seat)
    (outside : seat.standing = .outside) (taken : x.topology.join seat.member = .error e) :
    s.HasRival l x i seat.member.id := by
  have there : seat.member.id ∈ x.topology.members.map Member.id := by
    by_contra away
    obtain ⟨topology, room⟩ := Topology.join_of_away away
    cases taken.symm.trans room
  obtain ⟨node, member, same⟩ := List.mem_map.mp there
  obtain ⟨⟨task, node⟩, present, rfl⟩ := List.mem_map.mp (b.members.mem_iff.mp member)
  have inside := b.owner.mp present
  cases task with
  | seat j =>
      cases other : x.seats[j]? with
      | none => simp [State.standing, found, other] at inside
      | some rival =>
          rw [State.standing_seat found other] at inside
          refine .inl ⟨j, ?_, ?_⟩
          · rintro rfl
            cases seated.symm.trans other
            cases outside.symm.trans inside
          · rw [Launch.ids, List.getElem?_map, other, Option.map_some, ← same]
            cases stage : rival.stage <;> simp only [Seat.standing, stage] at inside <;> cases inside
            rfl
  | run r =>
      cases rival : s.runs[r]? with
      | none => simp [State.standing, rival] at inside
      | some y =>
          by_cases here : y.launch = l
          · rw [State.standing_run rival here] at inside
            refine .inr ⟨y, List.mem_of_getElem? rival, here, ?_⟩
            rw [← same]
            cases stage : y.stage <;> simp only [Run.standing, stage] at inside <;> cases inside <;> rfl
          · simp [State.standing, rival, here] at inside

/-- Every launch of a state is explained. -/
def Explained (s : State) : Prop :=
  ∀ (l : LaunchId) (x : Launch), s.launches[l]? = some x → s.Explains l x

namespace Explained

variable {s t : State}

/-- Applications go on, each with its launch and its id. -/
theorem frame (e : Explained s) {l : LaunchId} {f : Launch → Launch} {r : RunId} {g : Run → Run}
    (launches : t.launches = s.launches.modify l f) (runs : t.runs = s.runs.modify r g)
    (same : ∀ y, (g y).launch = y.launch ∧ (g y).member.id = y.member.id)
    (new : ∀ x, s.launches[l]? = some x → s.Explains l (f x)) : Explained t := by
  intro k x found
  have later : ∀ y ∈ s.runs, ∃ z ∈ t.runs, z.launch = y.launch ∧ z.member.id = y.member.id := by
    intro y member
    obtain ⟨q, there⟩ := List.mem_iff_getElem?.mp member
    by_cases this : r = q
    · subst this
      exact ⟨g y, List.mem_of_getElem? (i := r) (by simp [runs, there]), same y⟩
    · exact ⟨y, List.mem_of_getElem? (i := q) (by simp [runs, this, there]), rfl, rfl⟩
  rw [launches, List.getElem?_modify, Option.map_eq_map, Option.map_eq_some_iff] at found
  obtain ⟨y, before, rfl⟩ := found
  by_cases hk : l = k
  · subst hk
    rw [if_pos rfl]
    exact (new y before).mono later
  · rw [if_neg hk]
    exact (e k y before).mono later

theorem frame_launches (e : Explained s) {l : LaunchId} {f : Launch → Launch}
    (launches : t.launches = s.launches.modify l f) (runs : t.runs = s.runs)
    (new : ∀ x, s.launches[l]? = some x → s.Explains l (f x)) : Explained t :=
  e.frame (r := 0) (g := id) launches (by rw [runs, List.modify_id]) (fun _ => ⟨rfl, rfl⟩) new

theorem frame_runs (e : Explained s) {r : RunId} {g : Run → Run} (launches : t.launches = s.launches)
    (runs : t.runs = s.runs.modify r g)
    (same : ∀ y, (g y).launch = y.launch ∧ (g y).member.id = y.member.id) : Explained t :=
  e.frame (l := 0) (f := id) (by rw [launches, List.modify_id]) runs same fun x found => e 0 x found

theorem step (e : Explained s) (tr : ∀ l, ∃ log, Traced l s log) {m : Move} (h : s.after? m = some t) :
    Explained t := by
  cases Effect.of_after? h with
  | addCluster | addApplication | runTaken | passed =>
      intro l x found
      exact (e l x found).mono fun y member => ⟨y, member, rfl, rfl⟩
  | accepted found plan =>
      intro l x found
      rcases of_getElem?_concat found with old | ⟨-, rfl⟩
      · exact (e l x old).mono fun y member => ⟨y, member, rfl, rfl⟩
      · obtain ⟨-, -, rfl⟩ := ManagedCluster.plan_ok plan
        exact .planned
  | bound | refused | rendered | unrendered | live | abandoned =>
      refine e.frame_launches rfl rfl fun x found => (e _ x found).setPhase ?_
      simp
  | installed =>
      exact e.frame_launches rfl rfl fun x found => (e _ _ found).seated _
  | halted =>
      exact e.frame_launches rfl rfl fun x found => (e _ _ found).halt
  | joined found seated due now room =>
      refine e.frame_launches State.launches_setTopology_setSeat rfl fun y hy => ?_
      cases found.symm.trans hy
      exact ((e _ _ found).setTopology (Topology.join_ok room).announced).joinSeat seated
  | turnedAway found seated due now taken =>
      refine e.frame_launches rfl rfl fun y hy => ?_
      cases found.symm.trans hy
      obtain ⟨log, tr⟩ := tr _
      refine (e _ _ found).endSeat seated (.inr ?_)
      exact (tr.bracketed found).rival_of_refused found seated (by rw [Seat.standing, due]) taken
  | calledOff found seated told due =>
      refine e.frame_launches rfl rfl fun y hy => ?_
      cases found.symm.trans hy
      exact (e _ _ found).endSeat seated (.inl told)
  | left found seated told there =>
      refine e.frame_launches State.launches_setTopology_setSeat rfl fun y hy => ?_
      cases found.symm.trans hy
      have announced := Topology.announced_leave (e _ _ found).announced
      exact ((e _ _ found).setTopology (announced _)).endSeat seated (.inl told)
  | runStarted target known idle =>
      intro l x found
      refine (e l x found).mono fun y member => ⟨y, ?_, rfl, rfl⟩
      exact List.mem_append_left _ member
  | runJoined found target stage room =>
      refine e.frame rfl rfl (fun y => ⟨rfl, rfl⟩) fun y hy => ?_
      cases target.symm.trans hy
      exact (e _ _ target).setTopology (Topology.join_ok room).announced
  | runSent found target stage sent =>
      refine e.frame rfl rfl (fun y => ⟨rfl, rfl⟩) fun y hy => ?_
      cases target.symm.trans hy
      obtain ⟨rfl, -⟩ := Shipment.send_ok sent
      exact (e _ _ target).setTopology (e _ _ target).announced
  | runLeft found target stage =>
      refine e.frame rfl rfl (fun y => ⟨rfl, rfl⟩) fun y hy => ?_
      cases target.symm.trans hy
      exact (e _ _ target).setTopology (Topology.announced_leave (e _ _ target).announced _)
  | runTurnedAway | runFinished | runUnsent | runJudged =>
      exact e.frame_runs rfl rfl fun y => ⟨rfl, rfl⟩

theorem afterAll {now : Nat} {files : Files} {marks : Nat → String} {moves : List Move}
    (run : State.afterAll? { now, files, marks } moves = some s) : Explained s := by
  induction moves using List.reverseRecOn generalizing s with
  | nil =>
      cases run
      intro l x found
      cases found
  | append_singleton moves m ih =>
      obtain ⟨u, before, last⟩ := State.afterAll?_concat.mp run
      exact (ih before).step (fun l => ⟨_, (Traced.afterAll before).2⟩) last

end Explained

/-! ## The end of a start -/

theorem Seat.joined_of_serves {seat : Seat} (serves : seat.standing.serves = true) :
    seat.stage = .joined := by
  cases stage : seat.stage with
  | joined => rfl
  | planned | due | ended => simp [standing, stage, Standing.serves] at serves

/-- When a start is over and no application has come as a server, all members that the launch was to
have are in its topology as servers. -/
theorem live_start_has_its_members {now : Nat} {files : Files} {marks : Nat → String}
    {moves : List Move} {s t : State} {l : LaunchId} {x : Launch}
    (run : State.afterAll? { now, files, marks } moves = some s) (found : s.launches[l]? = some x)
    (live : s.goLive? l = some t)
    (clients : ∀ y ∈ s.runs, y.launch = l → y.standing.serves = false) :
    ∀ seat ∈ x.seats, seat.stage = .joined ∧ seat.member ∈ x.topology.members ∧
      seat.member.client = false := by
  have explained := Explained.afterAll run l x found
  have b := (Traced.afterAll (l := l) run).2.bracketed found
  have none : s.runs.countP (fun y => y.launch = l && y.standing.serves) = 0 := by
    refine List.countP_eq_zero.mpr fun y member => ?_
    simpa using clients y member
  have all : x.seats.countP (fun seat => seat.standing.serves) = x.seats.length := by
    cases Effect.of_goLive? live with
    | live there phase enough =>
        cases found.symm.trans there
        rw [explained.announced, b.servers_eq found, none, Nat.add_zero] at enough
        exact Nat.le_antisymm List.countP_le_length enough
  intro seat member
  have joined := Seat.joined_of_serves (List.countP_eq_length.mp all seat member)
  obtain ⟨i, seated⟩ := List.mem_iff_getElem?.mp member
  have inside : s.standing l (.seat i) = .inside seat.member := by
    rw [State.standing_seat found seated, Seat.standing, joined]
  refine ⟨joined, b.members.mem_iff.mpr ?_, explained.servers seat member⟩
  exact List.mem_map_of_mem (f := Prod.snd) (b.owner.mpr inside)

/-- An application that finds a cluster while it is started, and comes as a server. -/
def strangerDuringStart : List Move :=
  [.addCluster { name := "cluster" }, .addApplication, .accept 0 {} 1, .bind 0, .install 0,
    .startRun 0 { ({} : Config.Node).asClient ["127.0.0.1:47500"] with clientMode := false }
      "compute.ExceptionGenerationApplication",
    .stepRun 0]

example : ((State.afterAll? {} strangerDuringStart).bind fun s => (s.goLive? 0).bind fun t =>
    t.launches[0]?.map fun x => (x.phase, x.seats.map Seat.stage)) = some (.live, [.due 0]) := by
  decide +kernel

section

variable {s : State} {l : LaunchId} {x : Launch} {i : Nat} {seat : Seat} {log : List Entry}

theorem State.not_hasRival (distinct : x.ids.Nodup)
    (apart : ∀ y ∈ s.runs, y.launch = l → y.member.id ∉ x.ids) (seated : x.seats[i]? = some seat) :
    ¬ s.HasRival l x i seat.member.id := by
  have own : x.ids[i]? = some seat.member.id := by simp [Launch.ids, seated]
  rintro (⟨j, other, same⟩ | ⟨y, member, here, same⟩)
  · have inside := (List.getElem?_eq_some_iff.mp own).1
    exact other ((List.getElem?_inj inside distinct).mp (own.trans same.symm)).symm
  · exact apart y member here (same ▸ List.mem_of_getElem? own)

/-- A member that is not there yet is due, unless it never comes. -/
theorem State.Explains.due_of_absent (e : s.Explains l x) (waiting : x.phase = .waiting)
    (kept : x.shutdown = false) (alone : ¬ s.HasRival l x i seat.member.id)
    (seated : x.seats[i]? = some seat) (absent : seat.standing.serves = false) :
    ∃ time, seat.stage = .due time := by
  have member := List.mem_of_getElem? seated
  cases stage : seat.stage with
  | due time => exact ⟨time, rfl⟩
  | planned => exact absurd stage (e.begun waiting seat member)
  | joined => simp [Seat.standing, stage, Standing.serves, e.servers seat member] at absent
  | ended hadJoined =>
      rcases e.ended seated stage with told | rival
      · cases kept.symm.trans told
      · exact absurd rival alone

theorem Bracketed.join_of_due (b : Bracketed (s.standing l) x.topology log)
    (found : s.launches[l]? = some x) (seated : x.seats[i]? = some seat)
    (alone : ¬ s.HasRival l x i seat.member.id) {time : Nat} (due : seat.stage = .due time) :
    ∃ t topology, s.afterAll? [.pass time, .joinSeat l i] = some t ∧ t.runs = s.runs ∧
      t.launches[l]? = some { x with
        topology, seats := x.seats.modify i fun seat => { seat with stage := .joined } } := by
  cases room : x.topology.join seat.member with
  | error e =>
      have outside : seat.standing = .outside := by rw [Seat.standing, due]
      exact absurd (b.rival_of_refused found seated outside room) alone
  | ok topology =>
      let later : State := { s with now := s.now + time }
      have there : later.launches[l]? = some x := found
      have join : later.joinSeat? l i = some ((later.setTopology l topology).setSeat l i .joined) := by
        simp [State.joinSeat?, there, seated, due, room, later]
      refine ⟨(later.setTopology l topology).setSeat l i .joined, topology, ?_, rfl, ?_⟩
      · simpa [State.afterAll?, State.after?] using join
      · rw [State.launches_setTopology_setSeat, List.getElem?_modify_eq, there]
        rfl

theorem Bracketed.goLive?_of_all (b : Bracketed (s.standing l) x.topology log) (e : s.Explains l x)
    (found : s.launches[l]? = some x) (waiting : x.phase = .waiting)
    (all : ∀ seat ∈ x.seats, seat.standing.serves = true) : ∃ t, s.goLive? l = some t := by
  have enough : x.seats.length ≤ x.topology.announced.servers := by
    rw [e.announced, b.servers_eq found, List.countP_eq_length.mpr all]
    exact Nat.le_add_right _ _
  exact ⟨s.setPhase l .live, by simp [State.goLive?, found, waiting, enough]⟩

end

/-- A start call that waits can still come to its end, as long as nobody has stopped the cluster and
each member has its id for itself: the members that have not joined need only wait for their time. -/
theorem waiting_start_can_end {now : Nat} {files : Files} {marks : Nat → String}
    {moves : List Move} {s : State} {l : LaunchId} {x : Launch}
    (run : State.afterAll? { now, files, marks } moves = some s) (found : s.launches[l]? = some x)
    (waiting : x.phase = .waiting) (kept : x.shutdown = false) (distinct : x.ids.Nodup)
    (apart : ∀ y ∈ s.runs, y.launch = l → y.member.id ∉ x.ids) :
    ∃ more t u, (∀ m ∈ more, (∃ duration, m = .pass duration) ∨ ∃ i, m = .joinSeat l i) ∧
      s.afterAll? more = some t ∧ t.goLive? l = some u := by
  -- By the number of members that are not there yet. Each of them joins as soon as its time has come.
  induction count : x.seats.countP (fun seat => !seat.standing.serves) generalizing moves s x with
  | zero =>
      have b := (Traced.afterAll (l := l) run).2.bracketed found
      have all : ∀ seat ∈ x.seats, seat.standing.serves = true := by
        simpa using List.countP_eq_zero.mp count
      obtain ⟨t, live⟩ := b.goLive?_of_all (Explained.afterAll run l x found) found waiting all
      exact ⟨[], s, t, by simp, rfl, live⟩
  | succ fewer ih =>
      have b := (Traced.afterAll (l := l) run).2.bracketed found
      have e := Explained.afterAll run l x found
      have some : 0 < x.seats.countP fun seat => !seat.standing.serves := count ▸ Nat.succ_pos _
      obtain ⟨seat, member, absent⟩ := List.countP_pos_iff.mp some
      obtain ⟨front, back, split⟩ := List.append_of_mem member
      have seated : x.seats[front.length]? = .some seat := by simp [split]
      have alone := State.not_hasRival distinct apart seated
      obtain ⟨time, due⟩ := e.due_of_absent waiting kept alone seated (by simpa using absent)
      obtain ⟨t, topology, joined, runs, there⟩ := b.join_of_due found seated alone due
      let y : Launch :=
        { x with topology, seats := x.seats.modify front.length fun seat => { seat with stage := .joined } }
      have ids : y.ids = x.ids := map_modify_of_same _ _ fun _ => rfl
      have less : y.seats.countP (fun seat => !seat.standing.serves) = fewer := by
        have serves : ({ seat with stage := .joined } : Seat).standing.serves = true := by
          simp [Seat.standing, Standing.serves, e.servers seat member]
        rw [split, List.countP_append, List.countP_cons, if_pos absent] at count
        simp only [y, split, modify_append_cons, List.countP_append, List.countP_cons, serves,
          Bool.not_true, Bool.false_eq_true, if_false]
        omega
      obtain ⟨more, u, v, own, went, live⟩ := ih (State.afterAll?_append run joined) there waiting kept
        (ids ▸ distinct) (by rw [runs, ids]; exact apart) less
      refine ⟨[.pass time, .joinSeat l front.length] ++ more, u, v, ?_,
        State.afterAll?_append joined went, live⟩
      intro m member
      rcases List.mem_append.mp member with first | later
      · simp only [List.mem_cons, List.not_mem_nil, or_false] at first
        rcases first with rfl | rfl
        · exact .inl ⟨time, rfl⟩
        · exact .inr ⟨front.length, rfl⟩
      · exact own m later

end ClusterHarness.InProcess
