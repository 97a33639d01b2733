import ClusterHarness.Proofs.Cluster.Network
import ClusterHarness.Proofs.InProcess.Elapse
import ClusterHarness.Proofs.InProcess.Gathering
import ClusterHarness.Proofs.InProcess.Plan

/-! # A start that writes nothing, and the stop after it

How the start of an idle cluster goes that writes no configurations, with everything else in the process
going on meanwhile: it is refused for want of a port, it fails at an address that is taken, or its
launch runs from then on, whether the members join in time or not. A stop takes back what the
start has bound, however far the members have come.
-/

namespace ClusterHarness.InProcess

open Cluster

/-- A launch whose start call has come so far. -/
def Launch.inPhase (x : Launch) (phase : StartPhase) : Launch := { x with phase }

namespace State

variable {s : State} {c : ClusterId} {l : LaunchId} {cluster : ManagedCluster} {x : Launch}
  {config : Config.Node} {nodes : Nat}

def withLaunch (s : State) (x : Launch) (nodes : Nat) : State :=
  { s with launches := s.launches ++ [x], generated := s.generated + nodes }

theorem withLaunch_last : (s.withLaunch x nodes).launches[s.launches.length]? = some x := by
  simp [withLaunch]

theorem updateLaunch_withLaunch {f : Launch → Launch} :
    (s.withLaunch x nodes).updateLaunch s.launches.length f = s.withLaunch (f x) nodes := by
  simp only [updateLaunch, withLaunch, modify_append_cons]

theorem bind?_of_begun (found : s.launches[l]? = some x) (begun : x.phase ≠ .accepted) :
    s.bind? l = none := by
  simp [bind?, found, begun]

theorem render?_of_unwritten (found : s.launches[l]? = some x)
    (owner : s.clusters[x.cluster]? = some cluster) (unwritten : cluster.rendering = none) :
    s.render? l = none := by
  cases phase : x.phase <;> simp [render?, found, phase, owner, unwritten]

theorem writing?_of_unwritten (found : s.launches[l]? = some x)
    (owner : s.clusters[x.cluster]? = some cluster) (unwritten : cluster.rendering = none) :
    s.writing? l = none := by
  cases phase : x.phase <;> simp [writing?, found, phase, owner, unwritten]

/-- A start call whose launch has failed or runs takes no further step. -/
theorem launchSteps_of_past (found : s.launches[l]? = some x) (begun : x.phase ≠ .accepted)
    (bound : ∀ written, x.phase ≠ .rendering written) (steps : Nat) : s.launchSteps l steps = s := by
  have noBind := bind?_of_begun found begun
  have noRender : s.render? l = none := by
    cases phase : x.phase with
    | rendering written => exact absurd phase (bound written)
    | _ => simp [render?, found, phase]
  have noInstall : s.install? l = none := by
    cases phase : x.phase with
    | rendering written => exact absurd phase (bound written)
    | _ => simp [install?, found, phase]
  cases steps with
  | zero => rfl
  | succ steps => simp [launchSteps, noBind, noRender, noInstall]

theorem writing?_of_past (found : s.launches[l]? = some x)
    (bound : ∀ written, x.phase ≠ .rendering written) : s.writing? l = none := by
  cases phase : x.phase with
  | rendering written => exact absurd phase (bound written)
  | _ => simp [writing?, found, phase]

section

variable (found : s.clusters[c]? = some cluster) (idle : cluster.running = none)

include found

theorem accept_error {e : Error} (refused : cluster.plan config nodes (s.freshId cluster.name) = .error e) :
    s.accept c config nodes = .error e := by
  simp [accept, found, refused, bind, Except.bind]

theorem accept_ok {members : List Member}
    (plan : cluster.plan config nodes (s.freshId cluster.name) = .ok members) :
    s.accept c config nodes =
      .ok (s.launches.length, s.withLaunch (.planned c cluster config members) nodes) := by
  simp only [accept, found, plan, bind, Except.bind]
  rfl

include idle

theorem bind?_taken {obstacle : StartObstacle} (owner : x.cluster = c) (phase : x.phase = .accepted)
    (taken : s.network.bindAll x.addresses s.launches.length = .error obstacle) :
    (s.withLaunch x nodes).bind? s.launches.length =
      some (s.withLaunch (x.inPhase (.failed (.startupFailed x.topology.name obstacle))) nodes) := by
  have free : (s.withLaunch x nodes).running? x.cluster = none := by
    simp [running?, withLaunch, owner, found, idle]
  have network : (s.withLaunch x nodes).network = s.network := rfl
  simp only [bind?, withLaunch_last, bind, Option.bind, guard, phase, if_true, free, network, taken]
  exact congrArg some updateLaunch_withLaunch

theorem bind?_free {network : Network LaunchId} (owner : x.cluster = c) (phase : x.phase = .accepted)
    (bound : s.network.bindAll x.addresses s.launches.length = .ok network) :
    (s.withLaunch x nodes).bind? s.launches.length =
      some ({ s with network }.withLaunch (x.inPhase (.rendering 0)) nodes) := by
  have free : (s.withLaunch x nodes).running? x.cluster = none := by
    simp [running?, withLaunch, owner, found, idle]
  have same : (s.withLaunch x nodes).network = s.network := rfl
  simp only [bind?, withLaunch_last, bind, Option.bind, guard, phase, if_true, free, same, bound]
  exact congrArg some (updateLaunch_withLaunch (s := { s with network }))

end

/-- The state in which the launch of a cluster has just been installed. -/
def withRunning (s : State) (c : ClusterId) (x : Launch) (nodes : Nat) : State :=
  (s.withLaunch x nodes).updateCluster c fun c => { c with running := some s.launches.length }

theorem withRunning_last : (s.withRunning c x nodes).launches[s.launches.length]? = some x := by
  simp [withRunning, updateCluster, withLaunch]

theorem install?_withLaunch {written : Nat} (found : s.clusters[c]? = some cluster) (owner : x.cluster = c)
    (phase : x.phase = .rendering written)
    (all : cluster.rendering = none ∨ x.seats.length ≤ written) :
    (s.withLaunch x nodes).install? s.launches.length =
      some (s.withRunning c (x.seated (s.now + waitTime cluster.joinDelay)) nodes) := by
  subst owner
  have same : (s.withLaunch x nodes).clusters[x.cluster]? = some cluster := found
  have enough : (cluster.rendering.isNone || decide (x.seats.length ≤ written)) = true := by
    simpa using all
  simp only [install?, withLaunch_last, bind, Option.bind, same, phase, guard, enough, if_true,
    updateLaunch_withLaunch]
  rfl

section

variable {e : Error} (failed : x.phase = .failed e)

include failed

theorem launchSteps_of_failed (steps : Nat) :
    (s.withLaunch x nodes).launchSteps s.launches.length steps = s.withLaunch x nodes :=
  launchSteps_of_past withLaunch_last (by simp [failed]) (by simp [failed]) steps

theorem startFailure?_of_failed :
    (s.withLaunch x nodes).startFailure? s.launches.length = some e := by
  rw [startFailure?, withLaunch_last, Option.map_some, failed]

end

theorem launchSteps_of_installed (time steps : Nat) :
    (s.withRunning c (x.seated time) nodes).launchSteps s.launches.length steps =
      s.withRunning c (x.seated time) nodes :=
  launchSteps_of_past withRunning_last (by simp [Launch.seated]) (by simp [Launch.seated]) steps

theorem startFailure?_of_installed (time : Nat) :
    (s.withRunning c (x.seated time) nodes).startFailure? s.launches.length = none := by
  rw [startFailure?, withRunning_last]
  rfl

/-! ## How the call goes -/

section

variable (found : s.clusters[c]? = some cluster) (idle : cluster.running = none)

include found

theorem startCluster_of_refused {e : Error}
    (refused : cluster.plan config nodes (s.freshId cluster.name) = .error e) :
    startCluster c config nodes s = .now (.error e) s := by
  simp only [startCluster, beginStart, accept_error found refused]

include idle

/-- A start fails when an address is taken, and all that remains of it is a launch that has failed. -/
theorem startCluster_of_taken {members : List Member} {obstacle : StartObstacle}
    (plan : cluster.plan config nodes (s.freshId cluster.name) = .ok members)
    (taken : s.network.bindAll (Launch.planned c cluster config members).addresses
      s.launches.length = .error obstacle) :
    ∃ x, x.phase = .failed (.startupFailed cluster.name obstacle) ∧ startCluster c config nodes s =
      { finish := some ⟨.error (.startupFailed cluster.name obstacle), 0, s.withLaunch x nodes⟩
        abandoned := fun _ => (s.withLaunch x nodes).abandonStart s.launches.length } := by
  let x := (Launch.planned c cluster config members).inPhase
    (.failed (.startupFailed cluster.name obstacle))
  have bind : (s.withLaunch _ nodes).bind? s.launches.length = some (s.withLaunch x nodes) :=
    bind?_taken found idle rfl rfl taken
  have failed : x.phase = .failed (.startupFailed cluster.name obstacle) := rfl
  have silent : (s.withLaunch x nodes).writing? s.launches.length = none :=
    writing?_of_past withLaunch_last (by simp [failed])
  refine ⟨x, failed, ?_⟩
  simp only [startCluster, beginStart, accept_ok found plan, bind, Option.getD_some, silent,
    Option.isSome_none, Bool.false_eq_true, if_false, resumeStart, launchSteps_of_failed failed,
    startFailure?_of_failed failed]

/-- A start that finds all its addresses free waits for the members of the launch that runs now. -/
theorem startCluster_of_free {members : List Member} {network : Network LaunchId}
    (plan : cluster.plan config nodes (s.freshId cluster.name) = .ok members)
    (unwritten : cluster.rendering = none)
    (bound : s.network.bindAll (Launch.planned c cluster config members).addresses
      s.launches.length = .ok network) :
    let t := { s with network }.withRunning c
      ((Launch.planned c cluster config members).seated (s.now + waitTime cluster.joinDelay)) nodes
    startCluster c config nodes s =
      { awaitMembers s.launches.length t with
        abandoned := fun limit =>
          if limit = 0 then t.abandonStart s.launches.length
          else (awaitMembers s.launches.length t).abandoned limit } := by
  let x := Launch.planned c cluster config members
  intro t
  have bind : (s.withLaunch x nodes).bind? s.launches.length =
      some ({ s with network }.withLaunch (x.inPhase (.rendering 0)) nodes) :=
    bind?_free found idle rfl rfl bound
  generalize hu : { s with network }.withLaunch (x.inPhase (.rendering 0)) nodes = u at bind
  have last : u.launches[s.launches.length]? = some (x.inPhase (.rendering 0)) := hu ▸ withLaunch_last
  have owner : u.clusters[(x.inPhase (.rendering 0)).cluster]? = some cluster := hu ▸ found
  have silent := writing?_of_unwritten last owner unwritten
  have noBind := bind?_of_begun last nofun
  have noRender := render?_of_unwritten last owner unwritten
  have install : u.install? s.launches.length = some t :=
    hu ▸ install?_withLaunch found rfl rfl (.inl unwritten)
  have stuck (steps : Nat) : t.launchSteps s.launches.length steps = t :=
    launchSteps_of_installed (s := { s with network }) _ steps
  have resumed : u.resumeStart s.launches.length nodes = t := by
    simp only [resumeStart, launchSteps, noBind, noRender, install]
    exact stuck nodes
  have failure : t.startFailure? s.launches.length = none :=
    startFailure?_of_installed (s := { s with network }) _
  have begun : s.beginStart c config nodes = (.ok s.launches.length, t) := by
    simp only [beginStart, accept_ok found plan]
    rw [bind]
    simp only [Option.getD_some, silent, Option.isSome_none, Bool.false_eq_true, if_false, resumed]
  have again : t.resumeStart s.launches.length nodes = t := stuck (nodes + 1)
  simp only [startCluster, begun, again, failure]

end

end State

end ClusterHarness.InProcess
