import ClusterHarness.Proofs.Files
import ClusterHarness.Proofs.InProcess.Calls
import ClusterHarness.Proofs.InProcess.FailedStart

/-! # Where the configurations of members are written

A start writes files for its members, each right in the folder that is meant for them and under the id of
the member, as long as there is no slash in the ids. Nothing else changes but that missing folders on the
way to that folder are made, however the start ends and wherever it is given up.
-/

namespace ClusterHarness.InProcess

open Cluster

/-- The name of the file for a member. -/
def fileName (format : Render.Format) (id : String) : String := id ++ "." ++ format.extension

/-- What is written for a member. -/
def fileText (format : Render.Format) (config : Config.Node) (id : String) : String :=
  format.render (config.apply (.consistentId id))

/-- The names and texts of the files for some members. -/
def memberFiles (format : Render.Format) (config : Config.Node) (members : List Member) :
    List (String × String) :=
  members.map fun m => (fileName format m.id, fileText format config m.id)

variable {format : Render.Format} {folder id : String} {config : Config.Node} {members : List Member}
  {files : Files}

theorem isPlain_fileName (slash : '/' ∉ id.toList) : Files.IsPlain (fileName format id) := by
  have long : 2 < (fileName format id).toList.length := by
    have extension : 2 < format.extension.toList.length := by cases format <;> decide
    rw [fileName, String.toList_append, String.toList_append, List.length_append, List.length_append]
    omega
  have other (short : String) (length : short.toList.length ≤ 2) : fileName format id ≠ short := by
    intro same
    rw [same] at long
    omega
  refine ⟨?_, other "" (by decide), other "." (by decide), other ".." (by decide)⟩
  have extension : '/' ∉ format.extension.toList := by cases format <;> decide
  have dot : '/' ∉ ".".toList := by decide
  rw [fileName, String.toList_append, String.toList_append, List.mem_append, List.mem_append]
  exact not_or.mpr ⟨not_or.mpr ⟨slash, dot⟩, extension⟩

theorem fileName_injective {other : String} (h : fileName format id = fileName format other) : id = other :=
  String.append_left_inj "." |>.mp (String.append_left_inj format.extension |>.mp h)

theorem mem_memberFiles {m : Member} (member : m ∈ members) :
    (fileName format m.id, fileText format config m.id) ∈ memberFiles format config members :=
  List.mem_map_of_mem member

section

variable {texts : List (String × String)}

/-- Writing one configuration. -/
theorem filled_write (slash : '/' ∉ id.toList) (own : (fileName format id, fileText format config id) ∈ texts) :
    Files.Filled folder texts files
      (format.write (config.apply (.consistentId id)) folder id files).1 := by
  have made : Files.Filled folder texts files _ := .makeFolders files folder
  unfold Render.Format.write
  dsimp only
  split
  · rename_i g fault unmade
    rw [unmade] at made
    exact made
  · rename_i g ready
    rw [ready] at made
    split
    · exact made
    · rename_i k wrote
      exact made.trans (.write (isPlain_fileName slash) own wrote)

theorem holds_of_write {left : Files} {path : String} (slash : '/' ∉ id.toList)
    (h : format.write (config.apply (.consistentId id)) folder id files = (left, .ok path)) :
    left.Holds folder (fileName format id) (fileText format config id) := by
  unfold Render.Format.write at h
  dsimp only at h
  split at h
  · cases h
  · split at h
    · cases h
    · rename_i k wrote
      cases h
      exact Files.holds_of_write (isPlain_fileName slash) wrote

/-- Writing the configurations of some members one after another. -/
theorem filled_writeAll_of_own (slashes : ∀ m ∈ members, '/' ∉ m.id.toList)
    (own : ∀ m ∈ members, (fileName format m.id, fileText format config m.id) ∈ texts) :
    Files.Filled folder texts files (writeAll format folder config members files).1 := by
  induction members generalizing files with
  | nil => exact .refl files
  | cons m rest ih =>
      have first : Files.Filled folder texts files _ :=
        filled_write (slashes m List.mem_cons_self) (own m List.mem_cons_self)
      rw [writeAll]
      split
      · rename_i g path wrote
        rw [wrote] at first
        exact first.trans (ih (fun k there => slashes k (List.mem_cons_of_mem _ there))
          fun k there => own k (List.mem_cons_of_mem _ there))
      · rename_i g e wrote
        rw [wrote] at first
        exact first

theorem filled_writeAll (format : Render.Format) (folder : String) (config : Config.Node)
    (slashes : ∀ m ∈ members, '/' ∉ m.id.toList) (files : Files) :
    Files.Filled folder (memberFiles format config members) files
      (writeAll format folder config members files).1 :=
  filled_writeAll_of_own slashes fun _ => mem_memberFiles

/-- What is written for a member stays while others are written. -/
theorem holds_of_filled {left : Files} (holds : files.Holds folder (fileName format id) (fileText format config id))
    (filled : Files.Filled folder (memberFiles format config members) files left) :
    left.Holds folder (fileName format id) (fileText format config id) := by
  refine holds.filled filled ?_
  intro other inside
  obtain ⟨k, -, same⟩ := List.mem_map.mp inside
  obtain ⟨named, rfl⟩ := Prod.mk.inj same
  rw [fileName_injective named]

/-- Once all are written, each of them is there. -/
theorem holds_of_writeAll {left : Files} {m : Member} (slashes : ∀ m ∈ members, '/' ∉ m.id.toList)
    (wrote : writeAll format folder config members files = (left, .ok ())) (member : m ∈ members) :
    left.Holds folder (fileName format m.id) (fileText format config m.id) := by
  induction members generalizing files with
  | nil => cases member
  | cons first rest ih =>
      have others : ∀ k ∈ rest, '/' ∉ k.id.toList := fun k there => slashes k (List.mem_cons_of_mem _ there)
      rw [writeAll] at wrote
      split at wrote
      · rename_i g path own
        rcases List.mem_cons.mp member with rfl | later
        · have there := holds_of_write (slashes m List.mem_cons_self) own
          have filled := filled_writeAll format folder config others g
          rw [wrote] at filled
          exact holds_of_filled there filled
        · exact ih others wrote later
      · cases wrote

end

theorem ManagedCluster.writeConfigs_of_rendering {cluster : ManagedCluster}
    (rendering : cluster.rendering = some (folder, format)) :
    cluster.writeConfigs config members files = writeAll format folder config members files := by
  rw [writeConfigs, rendering]

namespace State

variable {s t : State} {c : ClusterId} {cluster : ManagedCluster} {l : LaunchId} {nodes : Nat}

/-! ## Moves -/

/-- Nothing but a launch that writes changes the files. -/
theorem files_of_after? {m : Move} (other : ∀ l, m ≠ .render l) (h : s.after? m = some t) :
    t.files = s.files := by
  cases Effect.of_after? h with
  | rendered | unrendered => exact absurd rfl (other _)
  | _ => rfl

theorem rendering_of_after? {m : Move} (found : s.clusters[c]? = some cluster) (h : s.after? m = some t) :
    ∃ k, t.clusters[c]? = some k ∧ k.rendering = cluster.rendering := by
  have modified {b : ClusterId} {running : Option LaunchId}
      (clusters : t.clusters = s.clusters.modify b fun c => { c with running }) :
      ∃ k, t.clusters[c]? = some k ∧ k.rendering = cluster.rendering := by
    rw [clusters, List.getElem?_modify, found]
    by_cases same : b = c
    · exact ⟨{ cluster with running }, by simp [same], rfl⟩
    · exact ⟨cluster, by simp [same], rfl⟩
  cases Effect.of_after? h with
  | addCluster =>
      exact ⟨cluster, (List.getElem?_append_left (List.getElem?_eq_some_iff.mp found).1).trans found, rfl⟩
  | installed | halted => exact modified rfl
  | _ => exact ⟨cluster, found, rfl⟩

/-- Whether a launch writes, if it does, the configurations of some members into a folder. -/
def WritesTo (folder : String) (format : Render.Format) (config : Config.Node) (members : List Member)
    (l : LaunchId) (t : State) : Prop :=
  ∃ x k, t.launches[l]? = some x ∧ x.topology.config = config ∧ x.seats.map Seat.member = members ∧
    t.clusters[x.cluster]? = some k ∧ k.rendering = some (folder, format)

namespace WritesTo

theorem accept (found : s.clusters[c]? = some cluster) (rendering : cluster.rendering = some (folder, format))
    (h : s.accept c config nodes = .ok (l, t)) :
    WritesTo folder format config
      ((List.range nodes).map (cluster.memberAt config (s.freshId cluster.name))) l t := by
  cases plan : cluster.plan config nodes (s.freshId cluster.name) with
  | error e =>
      rw [accept_error found plan] at h
      cases h
  | ok members =>
      rw [accept_ok found plan] at h
      cases h
      obtain ⟨-, -, rfl⟩ := ManagedCluster.plan_ok plan
      exact ⟨_, cluster, withLaunch_last, rfl, by simp [Launch.planned], found, rendering⟩

theorem step (writes : WritesTo folder format config members l s) {m : Move} (h : s.after? m = some t) :
    WritesTo folder format config members l t := by
  obtain ⟨x, k, there, settings, same, owner, rendering⟩ := writes
  obtain ⟨y, later, plan⟩ := later_of_after? h there
  obtain ⟨k', owner', rendering'⟩ := rendering_of_after? owner h
  exact ⟨y, k', later, plan.config.trans settings, plan.members.trans same, plan.cluster ▸ owner',
    rendering'.trans rendering⟩

theorem afterMoves (writes : WritesTo folder format config members l s) {moves : List Move}
    (h : s.afterAll? moves = some t) : WritesTo folder format config members l t :=
  State.afterAll?_invariant (fun _ => True) writes (fun writes _ => writes.step) (fun _ _ => trivial) h

theorem render (writes : WritesTo folder format config members l s)
    (slashes : ∀ m ∈ members, '/' ∉ m.id.toList) (h : s.render? l = some t) :
    Files.Filled folder (memberFiles format config members) s.files t.files := by
  obtain ⟨x, k, there, rfl, rfl, owner, rendering⟩ := writes
  simp only [render?, there, owner, rendering, bind, Option.bind] at h
  split at h
  · rename_i written phase
    split at h
    · cases h
    · rename_i seat seated
      have member : seat.member ∈ x.seats.map Seat.member :=
        List.mem_map_of_mem (List.mem_of_getElem? seated)
      have filled : Files.Filled folder
          (memberFiles format x.topology.config (x.seats.map Seat.member)) s.files
          (format.write (memberConfig x seat) folder seat.member.id s.files).1 :=
        filled_write (slashes _ member) (mem_memberFiles member)
      -- What is written stays, whether the call goes on or fails.
      dsimp only at h
      split at h
      all_goals
        rename_i wrote
        cases h
        rw [wrote] at filled
        exact filled
  · cases h

/-- As long as no other launch writes, files are written for the members of this one alone. -/
theorem afterAll (writes : WritesTo folder format config members l s)
    (slashes : ∀ m ∈ members, '/' ∉ m.id.toList) {moves : List Move}
    (own : ∀ k, Move.render k ∈ moves → k = l) (h : s.afterAll? moves = some t) :
    WritesTo folder format config members l t ∧
      Files.Filled folder (memberFiles format config members) s.files t.files := by
  refine State.afterAll?_invariant
    (P := fun t => WritesTo folder format config members l t ∧
      Files.Filled folder (memberFiles format config members) s.files t.files)
    (fun m => ∀ k, m = .render k → k = l) ⟨writes, .refl _⟩ ?_ (fun m there k same => own k (same ▸ there)) h
  rintro u v m ⟨writes, filled⟩ own step
  refine ⟨writes.step step, ?_⟩
  by_cases other : ∀ k, m ≠ .render k
  · rw [files_of_after? other step]
    exact filled
  · obtain ⟨k, same⟩ := not_forall_not.mp other
    obtain rfl := own k same
    subst same
    exact filled.trans (writes.render slashes step)

end WritesTo

/-! ## Calls -/

theorem files_of_unasked (via : Via Move.isUnasked s t) : t.files = s.files := by
  obtain ⟨moves, own, went⟩ := via
  refine State.afterAll?_invariant (P := fun t => t.files = s.files) (fun m => m.isUnasked = true) rfl ?_
    own went
  intro u v m before own last
  have kept : v.files = u.files := files_of_after? (by rintro l rfl; cases own) last
  exact kept.trans before

theorem files_goLive? (h : s.goLive? l = some t) : t.files = s.files :=
  files_of_after? (m := .goLive l) nofun h

theorem files_abandon? (h : s.abandon? l = some t) : t.files = s.files :=
  files_of_after? (m := .abandon l) nofun h

theorem files_pass (duration : Nat) (s : State) : (s.pass duration).files = s.files :=
  files_of_unasked (pass_via duration s)

theorem files_awaitMembers {x : Finish State Unit} (h : (awaitMembers l s).finish = some x) :
    x.state.files = s.files := by
  obtain ⟨-, t, via, live⟩ := awaitMembers_via h
  rw [files_goLive? live, files_of_unasked via]

theorem files_abandoned_awaitMembers (limit : Nat) :
    ((awaitMembers l s).abandoned limit).files = s.files := by
  have waited : ((waitFor (isLive l) (fun _ => .ok ()) s).abandoned limit).files = s.files := by
    rw [waitFor]
    split
    · rfl
    · exact files_pass limit s
  rw [awaitMembers]
  dsimp only
  generalize (waitFor (isLive l) (fun _ => .ok ()) s).abandoned limit = t at waited ⊢
  cases given : t.abandon? l with
  | none => exact waited
  | some u => exact (files_abandon? given).trans waited

/-- A start that is given up where it is about to write has its folder made all the same. -/
theorem files_abandonStart : (s.abandonStart l).files =
    match s.writing? l with
    | some (folder, _) => (s.files.makeFolders folder).1
    | none => s.files := by
  have left : ((s.abandon? l).getD s).files = s.files := by
    cases given : s.abandon? l with
    | none => rfl
    | some t => exact files_abandon? given
  rw [abandonStart]
  cases s.writing? l with
  | none => exact left
  | some target =>
      obtain ⟨folder, format⟩ := target
      dsimp only
      rw [left]

/-- Whether a start call can leave the process in a state: it ends there, or it is given up there. -/
def CanLeave (s : State) (c : ClusterId) (config : Config.Node) (nodes : Nat) (t : State) : Prop :=
  (∃ x, (startCluster c config nodes s).finish = some x ∧ x.state = t) ∨
    ∃ limit, (startCluster c config nodes s).abandoned limit = t

section

variable {network : Network LaunchId} (found : s.clusters[c]? = some cluster)
  (plan : cluster.plan config nodes (s.freshId cluster.name) = .ok members)
  (bound : s.network.bindAll (Launch.planned c cluster config members).addresses s.launches.length =
    .ok network)
  (idle : cluster.running = none) (rendering : cluster.rendering = some (folder, format))

include found plan bound idle rendering

/-- A start that is given up at once, or cannot write, is given up where it is about to write. Otherwise it
has written everything by then. -/
theorem files_abandoned_of_writing (limit : Nat) :
    ((startCluster c config nodes s).abandoned limit).files =
      match writeAll format folder config members s.files with
      | (files, .ok ()) => if limit = 0 then (s.files.makeFolders folder).1 else files
      | (_, .error _) => (s.files.makeFolders folder).1 := by
  have begun := beginStart_of_writing found plan bound idle rendering
  have resumed := resumeStart_of_writing found plan bound rendering
  have early : (({ s with network }.withLaunch ((Launch.planned c cluster config members).inPhase
      (.rendering 0)) nodes).abandonStart s.launches.length).files = (s.files.makeFolders folder).1 := by
    have writing : ({ s with network }.withLaunch ((Launch.planned c cluster config members).inPhase
        (.rendering 0)) nodes).writing? s.launches.length = some (folder, format) :=
      writing?_withLaunch (s := { s with network }) found rfl rfl rendering
    rw [files_abandonStart, writing]
    rfl
  cases wrote : writeAll format folder config members s.files with
  | mk files result =>
      rw [wrote] at resumed
      cases result with
      | error e =>
          have failure : ({ s with files }.withLaunch ((Launch.planned c cluster config members).inPhase
              (.failed e)) nodes).startFailure? s.launches.length = some e := startFailure?_of_failed rfl
          simp only [startCluster, begun, resumed]
          rw [failure]
          exact early
      | ok _ =>
          have failure : ({ s with network, files }.withRunning c
              ((Launch.planned c cluster config members).seated (s.now + waitTime cluster.joinDelay))
              nodes).startFailure? s.launches.length = none := startFailure?_of_installed _
          simp only [startCluster, begun, resumed]
          rw [failure]
          dsimp only
          split
          · exact early
          · rw [files_abandoned_awaitMembers]
            rfl

theorem filled_of_abandoned_writing (slashes : ∀ m ∈ members, '/' ∉ m.id.toList) (limit : Nat) :
    Files.Filled folder (memberFiles format config members) s.files
      ((startCluster c config nodes s).abandoned limit).files := by
  have filled := filled_writeAll format folder config slashes s.files
  rw [files_abandoned_of_writing found plan bound idle rendering]
  split
  · rename_i files wrote
    rw [wrote] at filled
    split
    · exact .makeFolders s.files folder
    · exact filled
  · exact .makeFolders s.files folder

end

section

variable (found : s.clusters[c]? = some cluster) (rendering : cluster.rendering = some (folder, format))
  (whole : members = (List.range nodes).map (cluster.memberAt config (s.freshId cluster.name)))
  (slashes : ∀ m ∈ members, '/' ∉ m.id.toList)

include found rendering whole slashes

theorem filled_of_finish {x : Finish State Unit} (h : (startCluster c config nodes s).finish = some x) :
    Files.Filled folder (memberFiles format config members) s.files x.state.files := by
  have how : s.Outcome c cluster config nodes _ := outcome found
  have filled := filled_writeAll format folder config slashes s.files
  rw [← ManagedCluster.writeConfigs_of_rendering rendering, whole] at filled
  rw [whole]
  rw [h] at how
  generalize finish : some x = result at how
  cases how with
  | refused | taken =>
      cases finish
      exact .refl s.files
  | unwritten _ _ wrote =>
      cases finish
      rw [wrote] at filled
      exact filled
  | waiting _ _ wrote =>
      rw [wrote] at filled
      rw [files_awaitMembers finish.symm]
      exact filled

theorem filled_of_abandoned (limit : Nat) :
    Files.Filled folder (memberFiles format config members) s.files
      ((startCluster c config nodes s).abandoned limit).files := by
  have plan : cluster.plan config nodes (s.freshId cluster.name) = _ := ManagedCluster.plan_eq_refusal
  rw [← whole] at plan
  cases refusal : (cluster.refusals config nodes).findSome? id with
  | some e =>
      rw [refusal] at plan
      rw [startCluster_of_refused found plan]
      exact .refl s.files
  | none =>
      rw [refusal] at plan
      have idle := (ManagedCluster.accepts_of_refusals refusal).idle
      cases room : s.network.bindAll (Launch.planned c cluster config members).addresses
          s.launches.length with
      | error obstacle =>
          obtain ⟨x, failed, course⟩ := startCluster_of_taken found idle plan room
          have silent : (s.withLaunch x nodes).writing? s.launches.length = none :=
            writing?_of_past withLaunch_last (by simp [failed])
          rw [course]
          dsimp only
          rw [files_abandonStart, silent]
          exact .refl s.files
      | ok network => exact filled_of_abandoned_writing found plan room idle rendering slashes limit

/-- A start fails at once, or it has written everything by the time it ends or is given up later on. -/
theorem failed_or_written :
    (∃ e t, (startCluster c config nodes s).finish = some ⟨.error e, 0, t⟩) ∨
      ∃ files, (∀ m ∈ members, files.Holds folder (fileName format m.id) (fileText format config m.id)) ∧
        (∀ x, (startCluster c config nodes s).finish = some x → x.result = .ok () ∧ x.state.files = files) ∧
        ∀ limit, 0 < limit → ((startCluster c config nodes s).abandoned limit).files = files := by
  have how : s.Outcome c cluster config nodes _ := outcome found
  generalize finish : (startCluster c config nodes s).finish = result at how ⊢
  cases how with
  | refused | taken | unwritten => exact .inl ⟨_, _, rfl⟩
  | @waiting network files x acceptable free wrote room launch =>
      have plan : cluster.plan config nodes (s.freshId cluster.name) = _ := ManagedCluster.plan_eq_refusal
      rw [acceptable, ← whole] at plan
      rw [← whole, ManagedCluster.writeConfigs_of_rendering rendering] at wrote
      rw [← Launch.addresses_planned, ← whole] at room
      have idle := (ManagedCluster.accepts_of_refusals acceptable).idle
      refine .inr ⟨files, fun m => holds_of_writeAll slashes wrote, ?_, ?_⟩
      · intro y ended
        exact ⟨awaitMembers_ok ended, files_awaitMembers ended⟩
      · intro limit late
        rw [files_abandoned_of_writing found plan room idle rendering, wrote]
        exact if_neg (Nat.ne_of_gt late)

end

end State

open State in
/-- What a start writes for its members it writes right into the folder that is meant for them, under their
ids. Nothing else changes but that missing folders on the way there are made, however the call ends and
wherever it is given up, and whatever goes on between its steps. A start that cannot write everything
fails. -/
theorem rendered_files_stay {s : State} {c : ClusterId} {cluster : ManagedCluster} {folder : String}
    {format : Render.Format} {config : Config.Node} {nodes : Nat} {members : List Member}
    (found : s.clusters[c]? = some cluster) (rendering : cluster.rendering = some (folder, format))
    (whole : members = (List.range nodes).map (cluster.memberAt config (s.freshId cluster.name)))
    (slashes : ∀ m ∈ members, '/' ∉ m.id.toList) :
    (∀ t, s.CanLeave c config nodes t →
      Files.Filled folder (memberFiles format config members) s.files t.files) ∧
    (∀ l begun before u after v, s.accept c config nodes = .ok (l, begun) →
      begun.afterAll? before = some u → (∀ k, .render k ∈ after → k = l) → u.afterAll? after = some v →
        Files.Filled folder (memberFiles format config members) u.files v.files) ∧
    ((∃ e t, (startCluster c config nodes s).finish = some ⟨.error e, 0, t⟩) ∨
      ∃ files, (∀ m ∈ members, files.Holds folder (fileName format m.id) (fileText format config m.id)) ∧
        (∀ x, (startCluster c config nodes s).finish = some x → x.result = .ok () ∧ x.state.files = files) ∧
        ∀ limit, 0 < limit → ((startCluster c config nodes s).abandoned limit).files = files) := by
  refine ⟨?_, ?_, failed_or_written found rendering whole slashes⟩
  · rintro t (⟨x, finish, rfl⟩ | ⟨limit, rfl⟩)
    · exact filled_of_finish found rendering whole slashes finish
    · exact filled_of_abandoned found rendering whole slashes limit
  · intro l begun before u after v accepted early own late
    have writes : WritesTo folder format config members l begun := whole ▸ .accept found rendering accepted
    have meanwhile := writes.afterMoves early
    exact (meanwhile.afterAll slashes own late).2

open State in
theorem rendered_files_stay_two_members :
    ∃ x, (startCluster 0 { consistentId := some "srv" } 2 { clusters := [writingCluster] }).finish = some x ∧
      x.result = .ok () ∧
        Files.Filled "conf"
          [("srv-0.json", fileText .json { consistentId := some "srv" } "srv-0"),
           ("srv-1.json", fileText .json { consistentId := some "srv" } "srv-1")] .empty x.state.files ∧
          x.state.files.Holds "conf" "srv-1.json" (fileText .json { consistentId := some "srv" } "srv-1") := by
  let s : State := { clusters := [writingCluster] }
  let config : Config.Node := { consistentId := some "srv" }
  let first : Member := { id := "srv-0", address := some "127.0.0.1:47500" }
  let second : Member := { id := "srv-1", address := some "127.0.0.1:47501" }
  have ok : ((startCluster 0 config 2 s).finish.map fun x => decide (x.result = .ok ())) = some true := by
    decide +kernel
  have names : fileName .json first.id = "srv-0.json" ∧ fileName .json second.id = "srv-1.json" := by
    decide +kernel
  obtain ⟨x, finish, fine⟩ := Option.map_eq_some_iff.mp ok
  have whole : [first, second] = (List.range 2).map (writingCluster.memberAt config (s.freshId "ignite")) := by
    decide +kernel
  have known : s.clusters[0]? = some writingCluster := rfl
  have rendering : writingCluster.rendering = some ("conf", .json) := rfl
  obtain ⟨filled, -, written⟩ := rendered_files_stay known rendering whole (by decide +kernel)
  have here := filled x.state (.inl ⟨x, finish, rfl⟩)
  rw [memberFiles, List.map_cons, List.map_singleton, names.1, names.2] at here
  refine ⟨x, finish, of_decide_eq_true fine, here, ?_⟩
  rcases written with ⟨e, t, failed⟩ | ⟨files, holds, ended, -⟩
  · cases finish.symm.trans failed
    cases of_decide_eq_true fine
  · obtain ⟨-, rfl⟩ := ended x finish
    have there := holds second (by simp)
    rwa [names.2] at there

open State in
/-- With a slash in the id a start that goes well writes beside the folder. -/
theorem rendered_files_stay_slashed :
    ∃ x, (startCluster 0 { consistentId := some "../up" } 1 { clusters := [writingCluster] }).finish = some x ∧
      x.result = .ok () ∧ x.state.files.LeadsTo "conf" ["work", "conf"] ∧
        Files.empty.get? ["work", "up-0.json"] = none ∧
          x.state.files.get? ["work", "up-0.json"] =
            some (.file (fileText .json { consistentId := some "../up" } "../up-0")) := by
  have seen : ((startCluster 0 { consistentId := some "../up" } 1 { clusters := [writingCluster] }).finish.map
      fun x => (decide (x.result = .ok ()),
        decide (x.state.files.walk (x.state.files.origin "conf") (Files.parts "conf") = .ok ["work", "conf"]),
        x.state.files.get? ["work", "conf"], x.state.files.get? ["work", "up-0.json"])) =
      some (true, true, some .folder,
        some (.file (fileText .json { consistentId := some "../up" } "../up-0"))) := by
    decide +kernel
  obtain ⟨x, finish, there⟩ := Option.map_eq_some_iff.mp seen
  obtain ⟨fine, walked, folder, file⟩ : _ ∧ _ ∧ _ ∧ _ := by simpa only [Prod.mk.injEq] using there
  exact ⟨x, finish, of_decide_eq_true fine, ⟨of_decide_eq_true walked, folder⟩, rfl, file⟩

end ClusterHarness.InProcess
