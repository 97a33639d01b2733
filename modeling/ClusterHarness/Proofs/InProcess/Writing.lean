import ClusterHarness.Proofs.InProcess.StartCall

/-! # A start that writes configurations

How the start of an idle cluster goes on that has bound its addresses. The configurations of the members
are written one after another, and the first that cannot be written ends the start, which then releases
its addresses. If all are written, or none is to be, the launch runs from then on.
-/

namespace ClusterHarness.InProcess

open Cluster

/-- Writes the configurations of some members one after another, up to the first that cannot be
written: the files afterwards, and what went wrong. -/
def writeAll (format : Render.Format) (folder : String) (config : Config.Node) :
    List Member → Files → Files × Except Error Unit
  | [], files => (files, .ok ())
  | m :: rest, files =>
    match format.write (config.apply (.consistentId m.id)) folder m.id files with
    | (files, .ok _) => writeAll format folder config rest files
    | (files, .error e) => (files, .error e)

/-- Writes the configurations of members if the cluster is to write any. -/
def ManagedCluster.writeConfigs (c : ManagedCluster) (config : Config.Node) (members : List Member)
    (files : Files) : Files × Except Error Unit :=
  match c.rendering with
  | none => (files, .ok ())
  | some (folder, format) => writeAll format folder config members files

section

variable {format : Render.Format} {folder : String} {config : Config.Node} {members before rest : List Member}
  {files between left : Files}

theorem writeAll_append (wrote : writeAll format folder config before files = (between, .ok ())) :
    writeAll format folder config (before ++ rest) files = writeAll format folder config rest between := by
  induction before generalizing files with
  | nil =>
      cases wrote
      rfl
  | cons m before ih =>
      cases write : format.write (config.apply (.consistentId m.id)) folder m.id files with
      | mk next result =>
          cases result with
          | error e => simp [writeAll, write] at wrote
          | ok path =>
              simp only [writeAll, write] at wrote
              simp only [List.cons_append, writeAll, write]
              exact ih wrote

/-- What goes wrong while some configurations are written goes wrong with the first that cannot be
written. -/
theorem writeAll_eq_error {e : Error} :
    writeAll format folder config members files = (left, .error e) ↔
      ∃ before m after between, members = before ++ m :: after ∧
        writeAll format folder config before files = (between, .ok ()) ∧
          format.write (config.apply (.consistentId m.id)) folder m.id between = (left, .error e) := by
  constructor
  · intro failed
    induction members generalizing files with
    | nil => cases failed
    | cons m rest ih =>
        rw [writeAll] at failed
        cases write : format.write (config.apply (.consistentId m.id)) folder m.id files with
        | mk next result =>
            rw [write] at failed
            cases result with
            | error first =>
                cases failed
                exact ⟨[], m, rest, files, rfl, rfl, write⟩
            | ok path =>
                obtain ⟨before, k, after, between, rfl, wrote, failed⟩ := ih failed
                refine ⟨m :: before, k, after, between, rfl, ?_, failed⟩
                simpa [writeAll, write] using wrote
  · rintro ⟨before, m, after, between, rfl, wrote, failed⟩
    rw [writeAll_append wrote, writeAll, failed]

end

namespace State

variable {s : State} {c : ClusterId} {cluster : ManagedCluster} {x : Launch} {config : Config.Node}
  {nodes written : Nat} {files : Files} {folder : String} {format : Render.Format} {seat : Seat}

section

variable (found : s.clusters[c]? = some cluster) (owner : x.cluster = c)
  (phase : x.phase = .rendering written)

include found owner phase

variable (rendering : cluster.rendering = some (folder, format))

include rendering

theorem writing?_withLaunch :
    (s.withLaunch x nodes).writing? s.launches.length = some (folder, format) := by
  subst owner
  have same : (s.withLaunch x nodes).clusters[x.cluster]? = some cluster := found
  simp [writing?, withLaunch_last, phase, same, rendering, guard]

variable (seated : x.seats[written]? = some seat)

include seated

theorem render?_of_ok {path : String}
    (write : format.write (memberConfig x seat) folder seat.member.id s.files = (files, .ok path)) :
    (s.withLaunch x nodes).render? s.launches.length =
      some ({ s with files }.withLaunch (x.inPhase (.rendering (written + 1))) nodes) := by
  subst owner
  have same : (s.withLaunch x nodes).clusters[x.cluster]? = some cluster := found
  have before : (s.withLaunch x nodes).files = s.files := rfl
  simp only [render?, withLaunch_last, bind, Option.bind, phase, same, rendering, seated, before, write]
  exact congrArg some (updateLaunch_withLaunch (s := { s with files }))

theorem render?_of_error {e : Error}
    (write : format.write (memberConfig x seat) folder seat.member.id s.files = (files, .error e)) :
    (s.withLaunch x nodes).render? s.launches.length =
      some ({ s with files, network := s.network.unbindAll x.addresses }.withLaunch
        (x.inPhase (.failed e)) nodes) := by
  subst owner
  have same : (s.withLaunch x nodes).clusters[x.cluster]? = some cluster := found
  have before : (s.withLaunch x nodes).files = s.files := rfl
  simp only [render?, withLaunch_last, bind, Option.bind, phase, same, rendering, seated, before, write]
  exact congrArg some (updateLaunch_withLaunch
    (s := { s with files, network := s.network.unbindAll x.addresses }))

end

theorem render?_of_all_written {l : LaunchId} (found : s.launches[l]? = some x)
    (phase : x.phase = .rendering written) (all : x.seats.length ≤ written) : s.render? l = none := by
  simp [render?, found, phase, all]

/-- The steps of a start call that writes come to what writing the configurations that are left comes
to. -/
theorem launchSteps_of_rendering (found : s.clusters[c]? = some cluster) (owner : x.cluster = c)
    (rendering : cluster.rendering = some (folder, format)) (settings : x.topology.config = config)
    {before rest : List Member} (phase : x.phase = .rendering before.length)
    (seats : x.seats = (before ++ rest).map fun member => { member }) {steps : Nat}
    (enough : rest.length < steps) :
    (s.withLaunch x nodes).launchSteps s.launches.length steps =
      match writeAll format folder config rest s.files with
      | (files, .ok ()) =>
        { s with files }.withRunning c (x.seated (s.now + waitTime cluster.joinDelay)) nodes
      | (files, .error e) =>
        { s with files, network := s.network.unbindAll x.addresses }.withLaunch
          (x.inPhase (.failed e)) nodes := by
  have last : (s.withLaunch x nodes).launches[s.launches.length]? = some x := withLaunch_last
  have noBind := bind?_of_begun last (by simp [phase])
  obtain ⟨steps, rfl⟩ := Nat.exists_eq_add_one_of_ne_zero (Nat.ne_of_gt (Nat.zero_lt_of_lt enough))
  induction rest generalizing before s x steps with
  | nil =>
      have all : x.seats.length ≤ before.length := by simp [seats]
      have noRender := render?_of_all_written last phase all
      have install : (s.withLaunch x nodes).install? s.launches.length = _ :=
        install?_withLaunch found owner phase (.inr all)
      simp only [launchSteps, noBind, noRender, install, writeAll]
      exact launchSteps_of_installed _ steps
  | cons m rest ih =>
      have seated : x.seats[before.length]? = some { member := m } := by simp [seats]
      have member : memberConfig x { member := m } = config.apply (.consistentId m.id) := by
        rw [memberConfig, settings]
      cases write : format.write (config.apply (.consistentId m.id)) folder m.id s.files with
      | mk files result =>
          rw [← member] at write
          cases result with
          | error e =>
              have render : (s.withLaunch x nodes).render? s.launches.length = _ :=
                render?_of_error found owner phase rendering seated write
              simp only [launchSteps, noBind, render, writeAll, ← member, write]
              exact launchSteps_of_failed (s := { s with files, network := _ }) rfl steps
          | ok path =>
              have render : (s.withLaunch x nodes).render? s.launches.length = _ :=
                render?_of_ok found owner phase rendering seated write
              have less : rest.length < steps := Nat.lt_of_succ_lt_succ enough
              obtain ⟨more, rfl⟩ := Nat.exists_eq_add_one_of_ne_zero
                (Nat.ne_of_gt (Nat.zero_lt_of_lt less))
              have next : (({ s with files } : State).withLaunch
                  (x.inPhase (.rendering (before.length + 1))) nodes).launches[s.launches.length]? =
                    some (x.inPhase (.rendering (before.length + 1))) := withLaunch_last
              have onwardSeats : (x.inPhase (.rendering (before.length + 1))).seats =
                  ((before ++ [m]) ++ rest).map fun member => { member } := by
                simpa [Launch.inPhase] using seats
              have onward := ih (s := { s with files }) (x := x.inPhase (.rendering (before.length + 1)))
                found owner settings (by simp [Launch.inPhase]) onwardSeats next
                (bind?_of_begun next (by simp [Launch.inPhase])) more less
              rw [launchSteps, noBind]
              simp only [render, writeAll, ← member, write]
              exact onward

section

variable {members : List Member} {network : Network LaunchId} (found : s.clusters[c]? = some cluster)
  (plan : cluster.plan config nodes (s.freshId cluster.name) = .ok members)
  (bound : s.network.bindAll (Launch.planned c cluster config members).addresses s.launches.length =
    .ok network)

include found plan bound

/-- A start call that is to write lets others run before it writes anything. -/
theorem beginStart_of_writing (idle : cluster.running = none)
    (rendering : cluster.rendering = some (folder, format)) :
    s.beginStart c config nodes = (.ok s.launches.length, { s with network }.withLaunch
      ((Launch.planned c cluster config members).inPhase (.rendering 0)) nodes) := by
  let x := (Launch.planned c cluster config members).inPhase (.rendering 0)
  let t : State := { s with network }
  have bind : (s.withLaunch _ nodes).bind? s.launches.length = some (t.withLaunch x nodes) :=
    bind?_free found idle rfl rfl bound
  have writing : (t.withLaunch x nodes).writing? s.launches.length = some (folder, format) :=
    writing?_withLaunch (s := t) found rfl rfl rendering
  simp only [beginStart, accept_ok found plan]
  rw [bind]
  simp only [Option.getD_some, writing, Option.isSome_some, if_true]
  rfl

/-- When a start call that is to write goes on, it writes all configurations, or fails and releases what
it has bound. -/
theorem resumeStart_of_writing (rendering : cluster.rendering = some (folder, format)) :
    ({ s with network }.withLaunch ((Launch.planned c cluster config members).inPhase (.rendering 0))
        nodes).resumeStart s.launches.length nodes =
      match writeAll format folder config members s.files with
      | (files, .ok ()) =>
        { s with network, files }.withRunning c
          ((Launch.planned c cluster config members).seated (s.now + waitTime cluster.joinDelay)) nodes
      | (files, .error e) =>
        { s with files }.withLaunch ((Launch.planned c cluster config members).inPhase (.failed e))
          nodes := by
  let x := (Launch.planned c cluster config members).inPhase (.rendering 0)
  let t : State := { s with network }
  have there : t.clusters[c]? = some cluster := found
  have enough : members.length < nodes + 1 := by
    obtain ⟨-, -, rfl⟩ := ManagedCluster.plan_ok plan
    simp
  have seats : x.seats = ([] ++ members).map fun member => { member } := rfl
  have resumed : (t.withLaunch x nodes).resumeStart s.launches.length nodes = _ :=
    launchSteps_of_rendering there rfl rendering rfl rfl seats enough
  have released : t.network.unbindAll x.addresses = s.network := Network.unbindAll_bindAll bound
  rw [released] at resumed
  exact resumed

/-- Once its addresses are bound, a start fails when a configuration cannot be written, and everything
but the files is as before, or else it waits for the members of the launch that runs now. -/
theorem startCluster_of_room (idle : cluster.running = none) :
    (startCluster c config nodes s).finish =
      match cluster.writeConfigs config members s.files with
      | (files, .ok ()) =>
        (awaitMembers s.launches.length ({ s with network, files }.withRunning c
          ((Launch.planned c cluster config members).seated (s.now + waitTime cluster.joinDelay))
            nodes)).finish
      | (files, .error e) =>
        some ⟨.error e, 0, { s with files }.withLaunch
          ((Launch.planned c cluster config members).inPhase (.failed e)) nodes⟩ := by
  rw [ManagedCluster.writeConfigs]
  cases rendering : cluster.rendering with
  | none => rw [startCluster_of_free found idle plan rendering bound]
  | some target =>
      obtain ⟨folder, format⟩ := target
      have begun := beginStart_of_writing found plan bound idle rendering
      have resumed := resumeStart_of_writing found plan bound rendering
      cases written : writeAll format folder config members s.files with
      | mk files result =>
          rw [written] at resumed
          cases result with
          | error e =>
              let t := { s with files }.withLaunch
                ((Launch.planned c cluster config members).inPhase (.failed e)) nodes
              have failure : t.startFailure? s.launches.length = some e := startFailure?_of_failed rfl
              simp only [startCluster, begun, resumed, written]
              rw [failure]
          | ok _ =>
              let t := { s with network, files }.withRunning c
                ((Launch.planned c cluster config members).seated (s.now + waitTime cluster.joinDelay))
                nodes
              have failure : t.startFailure? s.launches.length = none := startFailure?_of_installed _
              simp only [startCluster, begun, resumed, written]
              rw [failure]

end

end State

end ClusterHarness.InProcess
