import ClusterHarness.Proofs.InProcess.Ownership
import ClusterHarness.Proofs.InProcess.Readiness

/-! # A start that waits for ever

A start call that waits keeps its topology alive itself, so nothing tells it that nobody will join any
more. When the tasks of its members have ended, its addresses are released and no server application is
on its way, the call waits whatever happens, unless its caller gives up.
-/

namespace ClusterHarness.InProcess

open Cluster

/-- Whether an application cannot become a server in a topology. -/
def Run.IsHarmless (y : Run) : Prop := y.member.client = true ∨ ∃ failure, y.stage = .ended failure

theorem Run.IsHarmless.serves {y : Run} (harmless : y.IsHarmless) : y.standing.serves = false := by
  rcases harmless with client | ⟨failure, ended⟩
  · cases stage : y.stage <;> simp [standing, stage, Standing.serves, client]
  · simp [standing, ended, Standing.serves]

/-- A launch that nobody can find and nobody is about to join. -/
structure Stranded (l : LaunchId) (x : Launch) (s : State) : Prop where
  found : s.launches[l]? = some x
  late : x.isEarly = false
  nonempty : x.seats ≠ []
  ended : ∀ seat ∈ x.seats, ∃ hadJoined, seat.stage = .ended hadJoined
  unbound : ∀ a, (a, l) ∉ s.network.bindings
  harmless : ∀ y ∈ s.runs, y.launch = l → y.IsHarmless

theorem State.discover_bound {s : State} {application : Application} {config : Config.Node}
    {l : LaunchId} {x : Launch} (h : s.discover application config = .ok (l, x)) :
    ∃ a, (a, l) ∈ s.network.bindings := by
  simp only [discover] at h
  repeat (split at h <;> try cases h)
  obtain ⟨a, -, owner⟩ := List.exists_of_findSome?_eq_some ‹s.network.resolve? _ = some l›
  exact ⟨a, Network.mem_of_owner? owner⟩

namespace Stranded

variable {s t : State} {l k : LaunchId} {x : Launch} {f : Launch → Launch}

theorem frame (st : Stranded l x s) (launches : t.launches = s.launches.modify k f)
    (same : k = l → (f x).isEarly = false ∧ (f x).seats = x.seats)
    (bindings : ∀ a, (a, l) ∈ t.network.bindings → (a, l) ∈ s.network.bindings)
    (harmless : ∀ y ∈ t.runs, y.launch = l → y.IsHarmless) : ∃ y, Stranded l y t := by
  by_cases this : k = l
  · subst this
    obtain ⟨late, seats⟩ := same rfl
    refine ⟨f x, ?_, late, seats ▸ st.nonempty, seats ▸ st.ended, ?_, harmless⟩
    · simp [launches, st.found]
    · exact fun a bound => st.unbound a (bindings a bound)
  · refine ⟨x, ?_, st.late, st.nonempty, st.ended, fun a bound => st.unbound a (bindings a bound), harmless⟩
    rw [launches, List.getElem?_modify_ne _ _ this, st.found]

/-- A launch that is still being started is another one. -/
theorem apart {y : Launch} (st : Stranded l x s) (found : s.launches[k]? = some y)
    (early : y.isEarly = true) : k ≠ l := by
  rintro rfl
  cases found.symm.trans st.found
  cases st.late.symm.trans early

theorem frame_runs (st : Stranded l x s) (launches : t.launches = s.launches)
    (network : t.network = s.network) (harmless : ∀ y ∈ t.runs, y.launch = l → y.IsHarmless) :
    ∃ y, Stranded l y t :=
  ⟨x, launches ▸ st.found, st.late, st.nonempty, st.ended, network ▸ st.unbound, harmless⟩

/-- A task that goes on is that of a harmless application, which stays so. -/
theorem harmless_modify (st : Stranded l x s) {r : RunId} {y : Run} {g : Run → Run}
    (found : s.runs[r]? = some y) (moving : ∀ failure, y.stage ≠ .ended failure)
    (launch : (g y).launch = y.launch) (client : (g y).member.client = y.member.client) :
    ∀ z ∈ s.runs.modify r g, z.launch = l → z.IsHarmless := by
  intro z member here
  obtain ⟨q, there⟩ := List.mem_iff_getElem?.mp member
  rcases of_getElem?_modify found there with ⟨-, rfl⟩ | there
  · rcases st.harmless y (List.mem_of_getElem? found) (launch.symm.trans here) with same | ⟨failure, ended⟩
    · exact .inl (client.trans same)
    · exact absurd ended (moving failure)
  · exact st.harmless z (List.mem_of_getElem? there) here

/-- A member whose task goes on belongs to another launch. -/
theorem other_seat {y : Launch} {i : Nat} {seat : Seat} (st : Stranded l x s)
    (found : s.launches[k]? = some y) (seated : y.seats[i]? = some seat)
    (moving : ∀ hadJoined, seat.stage ≠ .ended hadJoined) : k ≠ l := by
  rintro rfl
  cases found.symm.trans st.found
  obtain ⟨hadJoined, ended⟩ := st.ended seat (List.mem_of_getElem? seated)
  exact moving hadJoined ended

theorem step (st : Stranded l x s) {m : Move} (h : s.after? m = some t) : ∃ y, Stranded l y t := by
  cases Effect.of_after? h with
  | addCluster | addApplication | runTaken | passed => exact st.frame_runs rfl rfl st.harmless
  | accepted =>
      refine ⟨x, ?_, st.late, st.nonempty, st.ended, st.unbound, st.harmless⟩
      exact (List.getElem?_append_left (List.getElem?_eq_some_iff.mp st.found).1).trans st.found
  | bound found phase idle free =>
      have other := st.apart found (by rw [Launch.isEarly, phase])
      refine st.frame rfl (fun here => absurd here other) (fun a bound => ?_) st.harmless
      obtain ⟨-, rfl⟩ := Network.bindAll_ok free
      rcases List.mem_append.mp bound with before | new
      · exact before
      · obtain ⟨b, -, same⟩ := List.mem_map.mp new
        exact absurd (Prod.mk.inj same).2 other
  | refused found phase =>
      have other := st.apart found (by rw [Launch.isEarly, phase])
      exact st.frame rfl (fun here => absurd here other) (fun _ => id) st.harmless
  | rendered found phase =>
      have other := st.apart found (Launch.isEarly_of_rendering phase)
      exact st.frame rfl (fun here => absurd here other) (fun _ => id) st.harmless
  | unrendered found phase =>
      have other := st.apart found (Launch.isEarly_of_rendering phase)
      refine st.frame rfl (fun here => absurd here other) (fun a bound => ?_) st.harmless
      exact (List.mem_filter.mp bound).1
  | installed found phase =>
      have other := st.apart found (Launch.isEarly_of_rendering phase)
      exact st.frame rfl (fun here => absurd here other) (fun _ => id) st.harmless
  | live | abandoned => exact st.frame rfl (fun _ => ⟨rfl, rfl⟩) (fun _ => id) st.harmless
  | halted =>
      refine st.frame rfl (fun _ => ⟨st.late, rfl⟩) (fun a bound => ?_) st.harmless
      exact (List.mem_filter.mp bound).1
  | joined found seated due =>
      have other := st.other_seat found seated (by simp [due])
      exact st.frame State.launches_setTopology_setSeat (fun here => absurd here other) (fun _ => id)
        st.harmless
  | left found seated told there =>
      have other := st.other_seat found seated (by simp [there])
      exact st.frame State.launches_setTopology_setSeat (fun here => absurd here other) (fun _ => id)
        st.harmless
  | turnedAway found seated due =>
      have other := st.other_seat found seated (by simp [due])
      exact st.frame rfl (fun here => absurd here other) (fun _ => id) st.harmless
  | calledOff found seated told due =>
      have other := st.other_seat found seated (by simp [due])
      exact st.frame rfl (fun here => absurd here other) (fun _ => id) st.harmless
  | runStarted target =>
      refine st.frame_runs rfl rfl fun y member here => ?_
      rcases List.mem_append.mp member with old | new
      · exact st.harmless y old here
      · -- Nobody finds a launch that has no address.
        cases List.mem_singleton.mp new
        obtain ⟨a, bound⟩ := State.discover_bound target
        exact absurd (here ▸ bound) (st.unbound a)
  | runJoined found target stage =>
      exact st.frame rfl (fun _ => ⟨st.late, rfl⟩) (fun _ => id)
        (st.harmless_modify found (by simp [stage]) rfl rfl)
  | runSent found target stage =>
      exact st.frame rfl (fun _ => ⟨st.late, rfl⟩) (fun _ => id)
        (st.harmless_modify found (by simp [stage]) rfl rfl)
  | runLeft found target stage =>
      exact st.frame rfl (fun _ => ⟨st.late, rfl⟩) (fun _ => id)
        (st.harmless_modify found (by simp [stage]) rfl rfl)
  | runTurnedAway found target stage | runFinished found target stage | runUnsent found target stage
  | runJudged found target stage =>
      exact st.frame_runs rfl rfl (st.harmless_modify found (by simp [stage]) rfl rfl)

theorem afterAll (st : Stranded l x s) {moves : List Move} (h : s.afterAll? moves = some t) :
    ∃ y, Stranded l y t := by
  refine State.afterAll?_invariant (P := fun t => ∃ y, Stranded l y t) (fun _ => True) ⟨x, st⟩ ?_
    (fun _ _ => trivial) h
  rintro u v m ⟨y, st⟩ - last
  exact st.step last

end Stranded

theorem Stranded.goLive?_eq_none {now : Nat} {files : Files} {marks : Nat → String}
    {moves : List Move} {s : State} {l : LaunchId} {x : Launch}
    (run : State.afterAll? { now, files, marks } moves = some s) (st : Stranded l x s) :
    s.goLive? l = none := by
  have b := (Traced.afterAll (l := l) run).2.bracketed st.found
  have seats : x.seats.countP (fun seat => seat.standing.serves) = 0 := by
    refine List.countP_eq_zero.mpr fun seat member => ?_
    obtain ⟨hadJoined, ended⟩ := st.ended seat member
    simp [Seat.standing, ended, Standing.serves]
  have runs : s.runs.countP (fun y => y.launch = l && y.standing.serves) = 0 := by
    refine List.countP_eq_zero.mpr fun y member => ?_
    simpa using fun here => (st.harmless y member here).serves
  cases live : s.goLive? l with
  | none => rfl
  | some t =>
      cases Effect.of_goLive? live with
      | live found phase enough =>
          cases st.found.symm.trans found
          rw [(Explained.afterAll run l x found).announced, b.servers_eq found, seats, runs] at enough
          exact absurd (List.length_eq_zero_iff.mp (Nat.le_zero.mp enough)) st.nonempty

/-- A start call whose cluster has been stopped, and whose members have all ended, never comes to its
end, whatever happens later, if the applications that had found the launch are clients or have ended. -/
theorem stopped_start_never_ends {now : Nat} {files : Files} {marks : Nat → String}
    {moves more : List Move} {s t : State} {l : LaunchId} {x : Launch} (kept : ∀ k, .abandon k ∉ moves)
    (run : State.afterAll? { now, files, marks } moves = some s) (found : s.launches[l]? = some x)
    (waiting : x.phase = .waiting) (stopped : s.running? x.cluster ≠ some l)
    (ended : ∀ seat ∈ x.seats, ∃ hadJoined, seat.stage = .ended hadJoined)
    (harmless : ∀ y ∈ s.runs, y.launch = l → y.IsHarmless) (later : s.afterAll? more = some t) :
    t.goLive? l = none := by
  have own := (Owned.start now files marks).afterAll kept run
  have unbound : ∀ a, (a, l) ∉ s.network.bindings := by
    intro a bound
    obtain ⟨y, there, -, holds⟩ := own.holder bound
    cases found.symm.trans there
    rcases holds with binding | runs
    · rw [Launch.isBinding, waiting] at binding
      cases binding
    · exact stopped runs
  have nonempty : x.seats ≠ [] := by
    intro empty
    obtain ⟨cluster, -, first, -⟩ := own.planned found
    simp [Launch.addresses, empty] at first
  have late : x.isEarly = false := by rw [Launch.isEarly, waiting]
  have stranded : Stranded l x s := ⟨found, late, nonempty, ended, unbound, harmless⟩
  obtain ⟨y, still⟩ := stranded.afterAll later
  exact still.goLive?_eq_none (State.afterAll?_append run later)

/-- A cluster that is stopped while the call that starts it waits for its member. -/
def stopDuringStart : List Move :=
  [.addCluster { name := "cluster" }, .accept 0 {} 1, .bind 0, .install 0, .halt 0, .leaveSeat 0 0]

example : ((State.afterAll? {} stopDuringStart).bind fun s => s.launches[0]?.map fun x =>
    (x.phase, x.seats.map Seat.stage, s.running? 0)) = some (.waiting, [.ended false], none) := by
  decide +kernel

end ClusterHarness.InProcess
