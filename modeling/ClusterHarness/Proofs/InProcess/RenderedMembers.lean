import ClusterHarness.Proofs.Config.RoundTrip
import ClusterHarness.Proofs.InProcess.RenderedFiles
import ClusterHarness.Proofs.InProcess.Rounds

/-! # Written configurations and the members that run

The ids of members are made anew wherever they are needed: for the files, for the topology and for the
addresses. Once a start has succeeded, the folder, the topology and the addresses tell of the same
members, as long as no application has joined them.
-/

namespace ClusterHarness.InProcess

open Cluster

/-! ## What is written by and by -/

/-- The number of members whose configurations are written when a start call has come to a phase. -/
def StartPhase.written (members : Nat) : StartPhase → Nat
  | .rendering written => written
  | .waiting | .live => members
  | _ => 0

variable {s t : State} {folder : String} {format : Render.Format} {config : Config.Node}
  {members : List Member} {l : LaunchId} {x : Launch}

/-- What the start call of a launch has written so far is there. -/
def State.HasWritten (folder : String) (format : Render.Format) (config : Config.Node)
    (members : List Member) (l : LaunchId) (t : State) : Prop :=
  ∃ x, t.launches[l]? = some x ∧ ∀ m ∈ members.take (x.phase.written members.length),
    t.files.Holds folder (fileName format m.id) (fileText format config m.id)

namespace State.HasWritten

/-- A call that has come to a phase in which nothing need be written. -/
theorem of_nothing {phase : StartPhase} (there : t.launches[l]? = some x) (same : x.phase = phase)
    (nothing : phase.written members.length = 0) : HasWritten folder format config members l t := by
  refine ⟨x, there, ?_⟩
  rw [same, nothing, List.take_zero]
  exact List.forall_mem_nil _

theorem render (written : HasWritten folder format config members l s)
    (writes : WritesTo folder format config members l s) (slashes : ∀ m ∈ members, '/' ∉ m.id.toList)
    (h : s.render? l = some t) : HasWritten folder format config members l t := by
  have filled := writes.render slashes h
  obtain ⟨x, k, found, rfl, rfl, owner, rendering⟩ := writes
  obtain ⟨y, there, holds⟩ := written
  cases found.symm.trans there
  simp only [render?, found, owner, rendering, bind, Option.bind] at h
  split at h
  · rename_i w phase
    split at h
    · cases h
    · rename_i seat seated
      dsimp only at h
      split at h
      · rename_i g path wrote
        cases h
        refine ⟨{ x with phase := .rendering (w + 1) }, by simp [setPhase, updateLaunch, found], ?_⟩
        rw [phase, StartPhase.written] at holds
        intro m member
        rw [StartPhase.written, List.take_add_one, List.getElem?_map, seated] at member
        rcases List.mem_append.mp member with before | last
        · exact holds_of_filled (holds m before) filled
        · obtain rfl := List.mem_singleton.mp last
          exact holds_of_write (slashes _ (List.mem_map_of_mem (List.mem_of_getElem? seated))) wrote
      · rename_i g e wrote
        cases h
        exact of_nothing (x := { x with phase := .failed e }) (by simp [setPhase, updateLaunch, found])
          rfl rfl
  · cases h

/-- A launch is installed when everything is written. -/
theorem install (written : HasWritten folder format config members l s)
    (writes : WritesTo folder format config members l s) (h : s.install? l = some t) :
    HasWritten folder format config members l t := by
  obtain ⟨x, k, found, rfl, rfl, owner, rendering⟩ := writes
  obtain ⟨y, there, holds⟩ := written
  cases found.symm.trans there
  simp only [install?, Option.bind_eq_bind, Option.bind_eq_some_iff] at h
  obtain ⟨z, found', cluster, owner', h⟩ := h
  cases found.symm.trans found'
  cases owner.symm.trans owner'
  split at h
  · rename_i w phase
    simp only [rendering, Option.isNone_some, Bool.false_or, Option.bind_eq_some_iff, Option.guard_eq_some',
      decide_eq_true_eq] at h
    obtain ⟨-, whole, h⟩ := h
    cases h
    rw [phase, StartPhase.written, List.take_of_length_le (by simpa using whole)] at holds
    refine ⟨_, by simp [updateCluster, updateLaunch, found]; rfl, ?_⟩
    rw [StartPhase.written, List.take_length]
    exact holds
  · cases h

theorem step (written : HasWritten folder format config members l s)
    (writes : WritesTo folder format config members l s) (slashes : ∀ m ∈ members, '/' ∉ m.id.toList)
    {m : Move} (own : m.isOfStart l = true) (h : s.after? m = some t) :
    HasWritten folder format config members l t := by
  rcases Move.isOfStart_cases own with aside | rfl | rfl | rfl
  · obtain ⟨x, there, holds⟩ := written
    obtain ⟨y, later, kept⟩ := (Beside.step aside h).launches there
    have files : t.files = s.files := files_of_after? (by rintro k rfl; cases aside) h
    have same : y.phase.written members.length = x.phase.written members.length := by
      rcases kept.phase with same | ⟨waiting, live⟩
      · rw [same]
      · rw [waiting, live]
        rfl
    refine ⟨y, later, ?_⟩
    rw [same, files]
    exact holds
  · cases Effect.of_bind? h with
    | bound found =>
        exact of_nothing (by simp [setPhase, updateLaunch, found]; rfl) rfl rfl
    | refused found =>
        exact of_nothing (by simp [setPhase, updateLaunch, found]; rfl) rfl rfl
  · exact written.render writes slashes h
  · exact written.install writes h

theorem afterAll (written : HasWritten folder format config members l s)
    (writes : WritesTo folder format config members l s) (slashes : ∀ m ∈ members, '/' ∉ m.id.toList)
    {moves : List Move} (own : ∀ m ∈ moves, m.isOfStart l = true) (h : s.afterAll? moves = some t) :
    HasWritten folder format config members l t := by
  refine (State.afterAll?_invariant
    (P := fun t => WritesTo folder format config members l t ∧ HasWritten folder format config members l t)
    (fun m => m.isOfStart l = true) ⟨writes, written⟩ ?_ own h).2
  rintro u v m ⟨writes, written⟩ own last
  exact ⟨writes.step last, written.step writes slashes own last⟩

end State.HasWritten

/-! ## Who is there -/

/-- No application has joined a launch yet. -/
def State.IsUnvisited (s : State) (l : LaunchId) : Prop := ∀ y ∈ s.runs, y.launch = l → y.stage = .spawned

theorem State.judged_ne_spawned (trial : ExceptionGeneration.Trial) (rest : List ExceptionGeneration.Trial)
    (answer : Compute.Answer) : State.judged trial rest answer ≠ .spawned := by
  simp only [State.judged]
  cases trial.judge answer <;> simp

theorem State.IsUnvisited.serves (unvisited : s.IsUnvisited l) :
    ∀ y ∈ s.runs, y.launch = l → y.standing.serves = false := by
  intro y member here
  rw [Run.standing, unvisited y member here]
  rfl

/-- An application that has not joined has not done so before. -/
theorem State.IsUnvisited.before {m : Move} (unvisited : t.IsUnvisited l) (h : s.after? m = some t) :
    s.IsUnvisited l := by
  intro y member here
  obtain ⟨r, found⟩ := List.mem_iff_getElem?.mp member
  have updated {q : RunId} {f : Run → Run} (runs : t.runs = s.runs.modify q f)
      (same : (f y).launch = y.launch) (visits : (f y).stage ≠ .spawned) : y.stage = .spawned := by
    by_cases this : q = r
    · subst this
      have after : f y ∈ t.runs := List.mem_of_getElem? (i := q) (by simp [runs, found])
      exact absurd (unvisited (f y) after (same.trans here)) visits
    · have after : y ∈ t.runs := List.mem_of_getElem? (i := r) (by simp [runs, this, found])
      exact unvisited y after here
  cases Effect.of_after? h with
  | runStarted => exact unvisited y (List.mem_append_left _ member) here
  | runJoined | runTurnedAway | runFinished | runSent | runLeft => exact updated rfl rfl nofun
  | runUnsent | runJudged => exact updated rfl rfl (State.judged_ne_spawned _ _ _)
  | _ => exact unvisited y member here

/-- A launch whose members stay, and are all there when its start call has ended. -/
structure Launch.IsStaffed (x : Launch) : Prop where
  told : x.shutdown = false
  all : x.phase = .live → ∀ seat ∈ x.seats, seat.stage = .joined

namespace Launch.IsStaffed

theorem setPhase (staffed : x.IsStaffed) {phase : StartPhase} (other : phase ≠ .live) :
    IsStaffed { x with phase } :=
  ⟨staffed.told, fun live => absurd live other⟩

theorem setTopology (staffed : x.IsStaffed) (topology : Topology) : IsStaffed { x with topology } :=
  ⟨staffed.told, staffed.all⟩

theorem joinSeat (staffed : x.IsStaffed) (i : Nat) :
    IsStaffed { x with seats := x.seats.modify i fun seat => { seat with stage := .joined } } := by
  refine ⟨staffed.told, fun live seat member => ?_⟩
  obtain ⟨k, found⟩ := List.mem_iff_getElem?.mp member
  rw [List.getElem?_modify, Option.map_eq_map, Option.map_eq_some_iff] at found
  obtain ⟨before, there, rfl⟩ := found
  by_cases here : i = k
  · rw [if_pos here]
  · rw [if_neg here]
    exact staffed.all live before (List.mem_of_getElem? there)

/-- The task of a member may end before it has joined, but not once the call has ended. -/
theorem endSeat (staffed : x.IsStaffed) {i : Nat} {seat : Seat} (seated : x.seats[i]? = some seat)
    (away : seat.stage ≠ .joined) (stage : SeatStage) :
    IsStaffed { x with seats := x.seats.modify i fun seat => { seat with stage } } :=
  ⟨staffed.told, fun live => absurd (staffed.all live seat (List.mem_of_getElem? seated)) away⟩

theorem step (staffed : x.IsStaffed) (reached : s.IsReachable) (unvisited : s.IsUnvisited l)
    (there : s.launches[l]? = some x) {m : Move} (own : m.isOfStart l = true) (h : s.after? m = some t) :
    ∃ y, t.launches[l]? = some y ∧ y.IsStaffed := by
  have modified {k : LaunchId} {f : Launch → Launch} (launches : t.launches = s.launches.modify k f)
      (kept : k = l → (f x).IsStaffed) : ∃ y, t.launches[l]? = some y ∧ y.IsStaffed := by
    rw [launches, List.getElem?_modify, there]
    by_cases same : k = l
    · exact ⟨f x, by simp [same], kept same⟩
    · exact ⟨x, by simp [same], staffed⟩
  cases Effect.of_after? h with
  | accepted =>
      exact ⟨x, (List.getElem?_append_left (List.getElem?_eq_some_iff.mp there).1).trans there, staffed⟩
  | bound | refused | rendered | unrendered => exact modified rfl fun _ => staffed.setPhase nofun
  | installed => exact modified rfl fun _ => ⟨staffed.told, nofun⟩
  | abandoned | halted => cases own
  | live found =>
      refine modified rfl ?_
      rintro rfl
      cases there.symm.trans found
      obtain ⟨now, files, marks, moves, run⟩ := reached
      have inside := live_start_has_its_members run there h unvisited.serves
      exact ⟨staffed.told, fun _ seat member => (inside seat member).1⟩
  | @joined _ i _ _ _ topology =>
      exact modified State.launches_setTopology_setSeat fun _ => (staffed.setTopology topology).joinSeat i
  | turnedAway found seated due | calledOff found seated told due =>
      refine modified rfl ?_
      rintro rfl
      cases there.symm.trans found
      exact staffed.endSeat seated (by simp [due]) _
  | left found seated told =>
      refine modified State.launches_setTopology_setSeat ?_
      rintro rfl
      cases there.symm.trans found
      cases staffed.told.symm.trans told
  | runJoined | runSent | runLeft => exact modified rfl fun _ => staffed.setTopology _
  | addCluster | addApplication | runStarted | runTaken | runTurnedAway | runFinished | runUnsent
  | runJudged | passed => exact ⟨x, there, staffed⟩

theorem afterAll (staffed : x.IsStaffed) (reached : s.IsReachable) (there : s.launches[l]? = some x)
    {moves : List Move} (own : ∀ m ∈ moves, m.isOfStart l = true) (h : s.afterAll? moves = some t)
    (unvisited : t.IsUnvisited l) : ∃ y, t.launches[l]? = some y ∧ y.IsStaffed := by
  refine (State.afterAll?_invariant
    (P := fun t => t.IsReachable ∧ (t.IsUnvisited l → ∃ y, t.launches[l]? = some y ∧ y.IsStaffed))
    (fun m => m.isOfStart l = true) ⟨reached, fun _ => ⟨x, there, staffed⟩⟩ ?_ own h).2 unvisited
  rintro u v m ⟨reached, staffed⟩ own last
  refine ⟨reached.step last, fun unvisited => ?_⟩
  obtain ⟨y, there, staffed⟩ := staffed (unvisited.before last)
  exact staffed.step reached (unvisited.before last) there own last

end Launch.IsStaffed

/-- When all members have joined and no application has, the members are all that there is in the
topology. -/
theorem State.IsReachable.members_perm (reached : t.IsReachable) (there : t.launches[l]? = some x)
    (all : ∀ seat ∈ x.seats, seat.stage = .joined) (unvisited : t.IsUnvisited l)
    (distinct : (x.seats.map Seat.member).Nodup) :
    x.topology.members.Perm (x.seats.map Seat.member) := by
  obtain ⟨now, files, marks, moves, run⟩ := reached
  have b := (Traced.afterAll (l := l) run).2.bracketed there
  refine (List.perm_ext_iff_of_nodup (.of_map _ b.distinct) distinct).mpr fun m => ?_
  rw [b.members.mem_iff, List.mem_map, List.mem_map]
  constructor
  · rintro ⟨⟨task, node⟩, present, rfl⟩
    have inside := b.owner.mp present
    cases task with
    | seat i =>
        cases seated : x.seats[i]? with
        | none => simp [State.standing, there, seated] at inside
        | some seat =>
            have member := List.mem_of_getElem? seated
            rw [State.standing_seat there seated, Seat.standing, all seat member] at inside
            cases inside
            exact ⟨seat, member, rfl⟩
    | run r =>
        cases found : t.runs[r]? with
        | none => simp [State.standing, found] at inside
        | some y =>
            by_cases here : y.launch = l
            · rw [State.standing_run found here, Run.standing,
                unvisited y (List.mem_of_getElem? found) here] at inside
              cases inside
            · simp [State.standing, found, here] at inside
  · rintro ⟨seat, member, rfl⟩
    obtain ⟨i, seated⟩ := List.mem_iff_getElem?.mp member
    refine ⟨(.seat i, seat.member), b.owner.mpr ?_, rfl⟩
    rw [State.standing_seat there seated, Seat.standing, all seat member]

/-! ## The same members everywhere -/

/-- The id of a member whose configuration has an id. -/
def numbered (id : String) (i : Nat) : String := id ++ "-" ++ Text.natText i

section

variable {id : String} {i j : Nat}

theorem numbered_injective (h : numbered id i = numbered id j) : i = j :=
  Text.natText_injective (String.append_right_inj (id ++ "-") |>.mp h)

theorem slash_notMem_numbered (slash : '/' ∉ id.toList) (i : Nat) : '/' ∉ (numbered id i).toList := by
  have digits : '/' ∉ (Text.natText i).toList := by
    rw [Text.natText, String.toList_ofList]
    exact fun there => absurd (Text.isDigit_of_mem_decimal there) (by decide)
  have dash : '/' ∉ "-".toList := by decide
  rw [numbered, String.toList_append, String.toList_append, List.mem_append, List.mem_append]
  exact not_or.mpr ⟨not_or.mpr ⟨slash, dash⟩, digits⟩

theorem fileName_json (id : String) : fileName .json id = id ++ ".json" := by
  rw [fileName, String.append_assoc]
  rfl

/-- What is written for a member is the configuration with the id of the member. -/
theorem decode_fileText (set : Config.MetricExporter.IsSet config.metricExporters) (id : String) :
    Config.Node.codec.ofText (fileText .json config id) = .ok { config with consistentId := some id } :=
  Schema.Codec.ofText_pretty
    (Config.Node.codec_keeps 0 (Config.Node.apply_isSet set (.consistentId id))) (by decide)

theorem memberAt_numbered (given : config.consistentId = some id) (cluster : ManagedCluster)
    (freshId : Nat → String) (i : Nat) : cluster.memberAt config freshId i =
      { id := numbered id i, address := some (cluster.addressAt i) } := by
  simp [ManagedCluster.memberAt, ManagedCluster.memberId, given, numbered]

end

/-- The configurations in a folder, the members of what runs in a cluster and its addresses go together,
and what else there was in the folder before is still there. -/
structure Described (before : Files) (c : ClusterId) (folder id : String) (config : Config.Node)
    (nodes : Nat) (t : State) : Prop where
  distinct : ((List.range nodes).map fun i => numbered id i ++ ".json").Nodup
  files : ∃ dir, t.files.LeadsTo folder dir ∧
    (∀ i < nodes, ∃ text, t.files.get? (dir ++ [numbered id i ++ ".json"]) = some (.file text) ∧
      Config.Node.codec.ofText text = .ok { config with consistentId := some (numbered id i) }) ∧
    ∀ name, (∀ i < nodes, name ≠ numbered id i ++ ".json") →
      (∀ text, t.files.get? (dir ++ [name]) = some (.file text) ↔
        before.get? (dir ++ [name]) = some (.file text)) ∧
      (".." ∉ Files.parts folder → t.files.get? (dir ++ [name]) = before.get? (dir ++ [name]))
  addresses : (t.discoveryAddresses c).length = nodes
  members : ∃ l x, t.running? c = some l ∧ t.launches[l]? = some x ∧
    x.topology.members.Perm
      ((t.discoveryAddresses c).mapIdx fun i a => { id := numbered id i, address := some a })

/-- When the configurations of all members are in a folder, each is read back, and no other file has
changed. -/
theorem described_of_filled {before after : Files} {nodes : Nat} {id : String} {address : Nat → String}
    (filled : Files.Filled folder (memberFiles .json config members) before after)
    (holds : ∀ m ∈ members, after.Holds folder (fileName .json m.id) (fileText .json config m.id))
    (whole : members = (List.range nodes).map fun i => { id := numbered id i, address := some (address i) })
    (some : nodes ≠ 0) (set : Config.MetricExporter.IsSet config.metricExporters) :
    ∃ dir, after.LeadsTo folder dir ∧
      (∀ i < nodes, ∃ text, after.get? (dir ++ [numbered id i ++ ".json"]) = .some (.file text) ∧
        Config.Node.codec.ofText text = .ok { config with consistentId := .some (numbered id i) }) ∧
      ∀ name, (∀ i < nodes, name ≠ numbered id i ++ ".json") →
        (∀ text, after.get? (dir ++ [name]) = .some (.file text) ↔
          before.get? (dir ++ [name]) = .some (.file text)) ∧
        (".." ∉ Files.parts folder → after.get? (dir ++ [name]) = before.get? (dir ++ [name])) := by
  have own : ∀ i < nodes, after.Holds folder (numbered id i ++ ".json")
      (fileText .json config (numbered id i)) := by
    intro i less
    have member : { id := numbered id i, address := .some (address i) } ∈ members := by
      rw [whole]
      exact List.mem_map.mpr ⟨i, List.mem_range.mpr less, rfl⟩
    have there := holds _ member
    rwa [fileName_json] at there
  obtain ⟨dir, leads, -⟩ := own 0 (Nat.pos_of_ne_zero some)
  refine ⟨dir, leads, ?_, ?_⟩
  · intro i less
    obtain ⟨dir', leads', there⟩ := own i less
    obtain rfl := leads.unique leads'
    exact ⟨_, there, decode_fileText set _⟩
  · intro name other
    have apart : ∀ text, (name, text) ∉ memberFiles .json config members := by
      intro text inside
      rw [memberFiles, whole, List.map_map] at inside
      obtain ⟨i, less, same⟩ := List.mem_map.mp inside
      have named := (Prod.mk.inj same).1
      rw [fileName_json] at named
      exact other i (List.mem_range.mp less) named.symm
    rcases filled.beside leads apart with same | ⟨up, missing, made⟩
    · rw [same]
      exact ⟨fun _ => .rfl, fun _ => rfl⟩
    · rw [missing, made]
      exact ⟨fun text => by simp, fun down => absurd up down⟩

namespace State

variable {c : ClusterId} {cluster : ManagedCluster} {id : String} {nodes : Nat}

theorem planned_of_accept (found : s.clusters[c]? = some cluster)
    (h : s.accept c config nodes = .ok (l, t)) : t.files = s.files ∧
      t.launches[l]? = some (.planned c cluster config
        ((List.range nodes).map (cluster.memberAt config (s.freshId cluster.name)))) := by
  cases plan : cluster.plan config nodes (s.freshId cluster.name) with
  | error e =>
      rw [accept_error found plan] at h
      cases h
  | ok members =>
      rw [accept_ok found plan] at h
      cases h
      obtain ⟨-, -, rfl⟩ := ManagedCluster.plan_ok plan
      exact ⟨rfl, withLaunch_last⟩

namespace Started

variable (started : s.Started c config nodes l t) (found : s.clusters[c]? = some cluster)

include started found

/-- A start that has succeeded has written everything, and nothing else. -/
theorem files_written (rendering : cluster.rendering = some (folder, format))
    (whole : members = (List.range nodes).map (cluster.memberAt config (s.freshId cluster.name)))
    (slashes : ∀ m ∈ members, '/' ∉ m.id.toList) :
    Files.Filled folder (memberFiles format config members) s.files t.files ∧
      ∀ m ∈ members, t.files.Holds folder (fileName format m.id) (fileText format config m.id) := by
  obtain ⟨begun, x, accepted, ⟨moves, own, went⟩, there, live⟩ := started
  obtain ⟨files, launch⟩ := planned_of_accept found accepted
  have writes : WritesTo folder format config members l begun := whole ▸ .accept found rendering accepted
  have nothing : HasWritten folder format config members l begun := .of_nothing launch rfl rfl
  have mine : ∀ k, Move.render k ∈ moves → k = l := fun k there => of_decide_eq_true (own _ there)
  obtain ⟨y, here, holds⟩ := nothing.afterAll writes slashes own went
  cases there.symm.trans here
  rw [live, StartPhase.written, List.take_length] at holds
  exact ⟨files ▸ (writes.afterAll slashes mine went).2, holds⟩

/-- A start that has succeeded without an application joining has its members in the topology, and nobody
else. -/
theorem members_there (reached : s.IsReachable) (unvisited : t.IsUnvisited l)
    (there : t.launches[l]? = some x) : x.topology.members.Perm
      ((List.range nodes).map (cluster.memberAt config (s.freshId cluster.name))) := by
  have planned := started.members found there
  have later := started.isReachable reached
  obtain ⟨begun, y, accepted, ⟨moves, own, went⟩, here, live⟩ := started
  cases there.symm.trans here
  obtain ⟨-, launch⟩ := planned_of_accept found accepted
  have staffed : (Launch.planned c cluster config
      ((List.range nodes).map (cluster.memberAt config (s.freshId cluster.name)))).IsStaffed := ⟨rfl, nofun⟩
  obtain ⟨y, here, staffed⟩ := staffed.afterAll (reached.accept accepted) launch own went unvisited
  cases there.symm.trans here
  rw [← planned]
  refine later.members_perm there (staffed.all live) unvisited ?_
  rw [planned]
  exact cluster.members_nodup config _ nodes

theorem described (reached : s.IsReachable) (rendering : cluster.rendering = some (folder, .json))
    (given : config.consistentId = some id) (slash : '/' ∉ id.toList)
    (set : Config.MetricExporter.IsSet config.metricExporters) (unvisited : t.IsUnvisited l) :
    Described s.files c folder id config nodes t := by
  obtain ⟨accepts, x, start⟩ := started.underway found
  have roster : (List.range nodes).map (cluster.memberAt config (s.freshId cluster.name)) =
      (List.range nodes).map fun i => { id := numbered id i, address := some (cluster.addressAt i) } :=
    List.map_congr_left fun i _ => memberAt_numbered given cluster _ i
  have slashes : ∀ m ∈ (List.range nodes).map (cluster.memberAt config (s.freshId cluster.name)),
      '/' ∉ m.id.toList := by
    rw [roster]
    intro m member
    obtain ⟨i, -, rfl⟩ := List.mem_map.mp member
    exact slash_notMem_numbered slash i
  obtain ⟨filled, holds⟩ := started.files_written found rendering rfl slashes
  have running : t.running? c = some l := start.running?
  have addresses : t.discoveryAddresses c = (List.range nodes).map cluster.addressAt := by
    rw [← start.held]
    simp [discoveryAddresses, running, start.found]
  refine ⟨?_, described_of_filled filled holds roster accepts.some set, ?_, l, x, running, start.found, ?_⟩
  · refine List.nodup_range.map fun i j same => ?_
    have ids : numbered id i = numbered id j := String.append_left_inj ".json" |>.mp same
    exact numbered_injective ids
  · rw [addresses, List.length_map, List.length_range]
  · have same := started.members_there found reached unvisited start.found
    rw [roster] at same
    rw [addresses]
    refine same.trans (.of_eq ?_)
    apply List.ext_getElem?
    intro i
    by_cases less : i < nodes <;> simp [less]

end Started

/-- A start call that is left alone succeeds without an application joining. -/
theorem unvisited_of_startCluster (reached : s.IsReachable) {elapsed : Nat}
    (h : (startCluster c config nodes s).finish = some ⟨.ok (), elapsed, t⟩) :
    ∃ l, s.Started c config nodes l t ∧ t.IsUnvisited l := by
  obtain ⟨l, started⟩ := started_of_startCluster h
  obtain ⟨k, begun, u, accepted, via, live⟩ := startCluster_via h
  have same : k = l := by
    obtain ⟨begun', x, accepted', -⟩ := started
    cases accepted.symm.trans accepted'
    rfl
  subst same
  refine ⟨k, started, fun y member here => ?_⟩
  cases Effect.of_goLive? live with
  | live => exact absurd here (via.not_attached reached accepted y member)

end State

open State in
/-- Once a start has succeeded, the folder holds one configuration for each member that runs, besides what
it held before under other names. The configuration is read back as that of the start with the id of the
member, the members with these ids are all that there is in the topology, and each has the address at its
place. That is so when the call is left alone, which succeeds unless something stands in its way, and also
when other calls and tasks go on beside it and after it, as long as none of them starts or stops a
cluster and no application has joined. -/
theorem written_configurations_match_members {s : State} {c : ClusterId} {cluster : ManagedCluster}
    {folder name : String} {config : Config.Node} {nodes : Nat} (reached : s.IsReachable)
    (found : s.clusters[c]? = some cluster) (rendering : cluster.rendering = some (folder, .json))
    (given : config.consistentId = some name) (slash : '/' ∉ name.toList)
    (set : Config.MetricExporter.IsSet config.metricExporters) :
    (∀ elapsed t, (startCluster c config nodes s).finish = some ⟨.ok (), elapsed, t⟩ →
      Described s.files c folder name config nodes t) ∧
    (∀ l t, s.Started c config nodes l t → t.IsUnvisited l →
      Described s.files c folder name config nodes t) ∧
    ((cluster.hindrances config nodes (s.freshId cluster.name) s.network s.files).findSome? id = none →
      ∃ elapsed t, (startCluster c config nodes s).finish = some ⟨.ok (), elapsed, t⟩) := by
  refine ⟨?_, ?_, startCluster_of_unhindered reached found ?_⟩
  · intro elapsed t ended
    obtain ⟨l, started, unvisited⟩ := unvisited_of_startCluster reached ended
    exact started.described found reached rendering given slash set unvisited
  · intro l t started unvisited
    exact started.described found reached rendering given slash set unvisited
  · rw [List.map_map]
    refine List.nodup_range.map fun i j same => ?_
    have ids : numbered name i = numbered name j := by
      simpa [memberAt_numbered given] using same
    exact numbered_injective ids

open State in
theorem written_configurations_match_members_two :
    ∃ t, State.IsReachable { clusters := [writingCluster] } ∧
      (∃ elapsed, (startCluster 0 { consistentId := some "srv" } 2 { clusters := [writingCluster] }).finish =
        some ⟨.ok (), elapsed, t⟩) ∧
      Described .empty 0 "conf" "srv" { consistentId := some "srv" } 2 t := by
  let s : State := { clusters := [writingCluster] }
  let config : Config.Node := { consistentId := some "srv" }
  have reached : s.IsReachable := ⟨0, .empty, distinction, [.addCluster writingCluster], rfl⟩
  have known : s.clusters[0]? = some writingCluster := rfl
  have rendering : writingCluster.rendering = some ("conf", .json) := rfl
  obtain ⟨-, beside, succeeds⟩ := @written_configurations_match_members s 0 writingCluster "conf" "srv" config 2
    reached known rendering rfl (by decide) (List.nil_sublist _)
  obtain ⟨elapsed, t, ended⟩ := succeeds (by decide +kernel)
  obtain ⟨l, started, unvisited⟩ := unvisited_of_startCluster reached ended
  exact ⟨t, reached, ⟨elapsed, ended⟩, beside l t started unvisited⟩

end ClusterHarness.InProcess
