import ClusterHarness.Proofs.InProcess.Attending
import ClusterHarness.Proofs.InProcess.Calls
import ClusterHarness.Proofs.InProcess.Succession
import Mathlib.Data.List.ReduceOption

/-! # Which applications are started

A request to start an application is checked in a fixed order. The first thing that is wrong with it is
what the caller is told, and then nothing has happened. Otherwise a task is spawned that joins the cluster
behind the first address that is bound, whenever it gets to run.
-/

namespace ClusterHarness.InProcess

open Cluster

/-! ## Where addresses lead -/

/-- Whether every binding leads to a launch that there is. -/
def State.IsLinked (s : State) : Prop :=
  ∀ {a : String} {l : LaunchId}, (a, l) ∈ s.network.bindings → ∃ x, s.launches[l]? = some x

theorem State.IsLinked.step {s t : State} {m : Move} (linked : s.IsLinked) (h : s.after? m = some t) :
    t.IsLinked := by
  intro a l bound
  have old (there : (a, l) ∈ s.network.bindings) : ∃ x, t.launches[l]? = some x := by
    obtain ⟨x, found⟩ := linked there
    obtain ⟨y, later, -⟩ := State.later_of_after? h found
    exact ⟨y, later⟩
  cases Effect.of_after? h with
  | bound found phase idle free =>
      obtain ⟨-, rfl⟩ := Network.bindAll_ok free
      rcases List.mem_append.mp bound with before | new
      · exact old before
      · -- Addresses are bound to a launch only by its own start call.
        obtain ⟨b, -, same⟩ := List.mem_map.mp new
        cases same
        obtain ⟨y, later, -⟩ := State.later_of_after? h found
        exact ⟨y, later⟩
  | unrendered | halted => exact old (List.mem_filter.mp bound).1
  | _ => exact old bound

/-- No address leads nowhere, whatever has happened. -/
theorem State.IsReachable.isLinked {s : State} (reached : s.IsReachable) : s.IsLinked := by
  obtain ⟨now, files, marks, moves, reached⟩ := reached
  refine State.afterAll?_invariant (P := State.IsLinked) (fun _ => True) ?_
    (fun linked _ h => linked.step h) (fun _ _ => trivial) reached
  intro a l bound
  cases bound

/-- The launch behind the first of some addresses that is bound. -/
def State.behindFirst? (s : State) (addresses : List String) : Option Launch := do
  let address ← addresses.find? s.network.isBound
  let l ← s.network.owner? address
  s.launches[l]?

/-- Whether a configuration leads to a launch: its addresses are tried in their order. -/
def State.LeadsTo (s : State) (config : Config.Node) (l : LaunchId) : Prop :=
  ∃ discovery before address after, config.discovery = some discovery ∧
    discovery.addresses = before ++ address :: after ∧
    (∀ a ∈ before, s.network.isBound a = false) ∧ s.network.owner? address = some l

namespace State

variable {s : State} {config : Config.Node} {discovery : Config.Discovery} {application : Application}
  {address : String} {l : LaunchId} {x : Launch}

theorem discover_of_none {entryPoint : String}
    (entry : Application.ofEntryPoint? entryPoint = some application) (settings : config.discovery = none) :
    s.discover application config = .error (.discoveryFailed (.notConfigured entryPoint)) := by
  have named := List.find?_some entry
  simp [discover, settings, beq_iff_eq.mp named]

variable (settings : config.discovery = some discovery)

include settings

theorem leadsTo_iff : s.LeadsTo config l ↔ s.network.resolve? discovery.addresses = some l := by
  rw [Network.resolve?, List.findSome?_eq_some_iff]
  constructor
  · rintro ⟨_, before, address, after, same, split, unbound, owner⟩
    cases settings.symm.trans same
    refine ⟨before, address, after, split, owner, fun a member => ?_⟩
    exact Option.isNone_iff_eq_none.mp (Option.isSome_eq_false_iff.mp (unbound a member))
  · rintro ⟨before, address, after, split, owner, unowned⟩
    refine ⟨discovery, before, address, after, settings, split, fun a member => ?_, owner⟩
    rw [Network.isBound, unowned a member, Option.isSome_none]

theorem discover_of_unbound (unbound : discovery.addresses.find? s.network.isBound = none) :
    s.discover application config = .error (.discoveryFailed (.unreachable discovery.addresses)) := by
  simp [discover, settings, Network.resolve?_eq_find?, unbound]

variable (first : discovery.addresses.find? s.network.isBound = some address)
  (owner : s.network.owner? address = some l)

include first owner

theorem discover_of_bound (there : s.launches[l]? = some x) :
    s.discover application config = .ok (l, x) := by
  simp [discover, settings, Network.resolve?_eq_find?, first, owner, there]

theorem leadsTo_of_bound : s.LeadsTo config l := by
  rw [leadsTo_iff settings, Network.resolve?_eq_find?, first, Option.bind_some, owner]

end State

/-! ## What is wrong with a request -/

/-- All that is wrong with a request to start an application, in the order of the checks. Those that come
after a failed one need not make sense any more. -/
def State.objections (s : State) (a : AppId) (config : Config.Node) (entryPoint : String) : List Error :=
  let addresses := (config.discovery.map Config.Discovery.addresses).getD []
  List.reduceOption
    [if (Application.ofEntryPoint? entryPoint).isNone then some (.unknownEntryPoint entryPoint) else none,
     match config.validate with
     | .ok _ => none
     | .error violation => some (.invalidConfig violation),
     if config.discovery.isNone then some (.discoveryFailed (.notConfigured entryPoint)) else none,
     if addresses.any s.network.isBound then none
     else some (.discoveryFailed (.unreachable addresses)),
     match s.behindFirst? addresses with
     | some x =>
       if x.topology.config.version = config.version then none
       else some (.startupFailed entryPoint (.versionMismatch config.version x.topology.config.version))
     | none => none,
     if (s.record a).isSome then some (.alreadyStarted entryPoint) else none]

/-- How a request to start an application is answered. -/
inductive State.Answered (s : State) (a : AppId) (config : Config.Node) (entryPoint : String) :
    Except Error State → Prop where
  | refused {e} (first : (s.objections a config entryPoint).head? = some e) :
      Answered s a config entryPoint (.error e)
  | started {application l x} (fine : s.objections a config entryPoint = [])
      (entry : Application.ofEntryPoint? entryPoint = some application) (leads : s.LeadsTo config l)
      (there : s.launches[l]? = some x) (version : x.topology.config.version = config.version) :
      Answered s a config entryPoint (.ok (s.withRun a { s.newRun config l with application }))

namespace State.Answered

variable {s : State} {a : AppId} {config : Config.Node} {entryPoint : String} {answer : Except Error State}

theorem error_iff (answered : s.Answered a config entryPoint answer) {e : Error} :
    answer = .error e ↔ (s.objections a config entryPoint).head? = some e := by
  cases answered with
  | refused first => simp [first]
  | started fine => simp [fine]

theorem ok_iff (answered : s.Answered a config entryPoint answer) :
    (∃ t, answer = .ok t) ↔ s.objections a config entryPoint = [] := by
  cases answered with
  | refused first => simp [List.ne_nil_of_mem (List.mem_of_mem_head? first)]
  | started fine => simp [fine]

end State.Answered

namespace State

variable {s : State} {a : AppId} {managed : ManagedApplication} {config : Config.Node}
  {entryPoint : String} {application : Application}

section

variable (entry : Application.ofEntryPoint? entryPoint = some application)
  (valid : config.validate = .ok ())

include entry valid

theorem startRun_of_lost {e : Error} (lost : s.discover application config = .error e) :
    s.startRun a config entryPoint = .error e := by
  simp [startRun, entry, valid, lost, Except.mapError, bind, Except.bind]

variable (known : s.applications[a]? = some managed)

include known

theorem startRun_of_found {l : LaunchId} {x : Launch}
    (found : s.discover application config = .ok (l, x)) :
    s.startRun a config entryPoint =
      if x.topology.config.version ≠ config.version then
        .error (.startupFailed entryPoint (.versionMismatch config.version x.topology.config.version))
      else if managed.running.isSome then .error (.alreadyStarted entryPoint)
      else .ok (s.withRun a { s.newRun config l with application }) := by
  simp only [startRun, entry, valid, found, known, Except.mapError, bind, Except.bind, bne_iff_ne]
  split
  · rfl
  · split <;> rfl

/-- What is left to check once the cluster is found. -/
theorem answered_of_bound {discovery : Config.Discovery} {address : String} (linked : s.IsLinked)
    (settings : config.discovery = some discovery)
    (first : discovery.addresses.find? s.network.isBound = some address) :
    s.Answered a config entryPoint (s.startRun a config entryPoint) := by
  have bound := List.find?_some first
  have reachable : discovery.addresses.any s.network.isBound = true :=
    List.any_eq_true.mpr ⟨address, List.mem_of_find?_eq_some first, bound⟩
  obtain ⟨l, owner⟩ := Option.isSome_iff_exists.mp bound
  obtain ⟨x, there⟩ := linked (Network.mem_of_owner? owner)
  have behind : s.behindFirst? discovery.addresses = some x := by
    simp [behindFirst?, first, owner, there]
  have record : s.record a = managed.running := by simp [State.record, known]
  rw [startRun_of_found entry valid known (discover_of_bound settings first owner there)]
  by_cases version : x.topology.config.version = config.version
  · rw [if_neg (not_not.mpr version)]
    cases running : managed.running with
    | some r =>
        rw [Option.isSome_some, if_pos rfl]
        exact .refused
          (by simp [objections, entry, valid, settings, reachable, behind, version, record, running])
    | none =>
        rw [Option.isSome_none, if_neg Bool.false_ne_true]
        refine .started ?_ entry (leadsTo_of_bound settings first owner) there version
        simp [objections, entry, valid, settings, reachable, behind, version, record, running]
  · rw [if_pos version]
    exact .refused (by simp [objections, entry, valid, settings, reachable, behind, version])

end

theorem answered (linked : s.IsLinked) (known : s.applications[a]? = some managed) (config : Config.Node)
    (entryPoint : String) : s.Answered a config entryPoint (s.startRun a config entryPoint) := by
  cases entry : Application.ofEntryPoint? entryPoint with
  | none =>
      rw [startRun, entry]
      exact .refused (by simp [objections, entry])
  | some application =>
      cases valid : config.validate with
      | error violation =>
          rw [startRun, entry, valid]
          exact .refused (by simp [objections, entry, valid])
      | ok _ =>
          cases settings : config.discovery with
          | none =>
              rw [startRun_of_lost entry valid (discover_of_none entry settings)]
              exact .refused (by simp [objections, entry, valid, settings])
          | some discovery =>
              cases first : discovery.addresses.find? s.network.isBound with
              | none =>
                  have unreachable : discovery.addresses.any s.network.isBound = false := by
                    simpa using first
                  rw [startRun_of_lost entry valid (discover_of_unbound settings first)]
                  exact .refused (by simp [objections, entry, valid, settings, unreachable])
              | some address => exact answered_of_bound entry valid known linked settings first

section

variable {e : Error} {t : State} {elapsed : Nat}

theorem startApplication_error :
    (startApplication a config entryPoint s).finish = some ⟨.error e, elapsed, t⟩ ↔
      s.startRun a config entryPoint = .error e ∧ elapsed = 0 ∧ t = s := by
  rw [startApplication]
  cases s.startRun a config entryPoint with
  | error e' => simp [Course.now, eq_comm]
  | ok t' => simp [Course.now]

theorem startApplication_ok :
    (startApplication a config entryPoint s).finish = some ⟨.ok (), elapsed, t⟩ ↔
      s.startRun a config entryPoint = .ok t ∧ elapsed = 0 := by
  rw [startApplication]
  cases s.startRun a config entryPoint with
  | error e' => simp [Course.now]
  | ok t' => simp [Course.now, and_comm, eq_comm]

end

end State

/-! ## Where a run goes -/

/-- A move leaves each run with the launch that it has found, and as the same node. -/
theorem State.run_of_after? {s t : State} {m : Move} {r : RunId} {x : Run} (h : s.after? m = some t)
    (found : s.runs[r]? = some x) :
    ∃ y, t.runs[r]? = some y ∧ y.launch = x.launch ∧ y.member = x.member := by
  have modified {k : RunId} {f : Run → Run} (runs : t.runs = s.runs.modify k f)
      (same : ∀ y : Run, (f y).launch = y.launch ∧ (f y).member = y.member) :
      ∃ y, t.runs[r]? = some y ∧ y.launch = x.launch ∧ y.member = x.member := by
    rw [runs, List.getElem?_modify, found]
    by_cases here : k = r
    · exact ⟨f x, by simp [here], same x⟩
    · exact ⟨x, by simp [here], rfl, rfl⟩
  cases Effect.of_after? h with
  | runStarted =>
      refine ⟨x, ?_, rfl, rfl⟩
      exact (List.getElem?_append_left (List.getElem?_eq_some_iff.mp found).1).trans found
  | runJoined | runTurnedAway | runFinished | runUnsent | runSent | runJudged | runLeft =>
      exact modified rfl fun _ => ⟨rfl, rfl⟩
  | _ => exact ⟨x, found, rfl, rfl⟩

/-- A run is attached to a launch that there is, where it is known as a node. -/
structure BoundFor (l : LaunchId) (r : RunId) (node : Member) (s : State) : Prop where
  run : ∃ x, s.runs[r]? = some x ∧ x.launch = l ∧ x.member = node
  launch : ∃ y, s.launches[l]? = some y

/-- What a run does to the launches: it joins one of them first, unless its id is taken there by then, and
it never touches another one. -/
structure JoinsOnly (l : LaunchId) (r : RunId) (node : Member) (s : State) : Prop where
  joins : s.runs[r]?.map Run.stage = some .spawned →
    ∃ t y z, s.stepRun? r = some t ∧ s.launches[l]? = some y ∧ t.launches[l]? = some z ∧
      (y.topology.join node = .ok z.topology ∨
        z = y ∧ ∃ e, y.topology.join node = .error e ∧ t = s.setRun r (.ended (some e)))
  elsewhere : ∀ {t : State}, s.stepRun? r = some t → ∀ k ≠ l, t.launches[k]? = s.launches[k]?

namespace BoundFor

variable {s t : State} {l : LaunchId} {r : RunId} {node : Member}

theorem step {m : Move} (bound : BoundFor l r node s) (h : s.after? m = some t) :
    BoundFor l r node t := by
  obtain ⟨⟨x, found, rfl, rfl⟩, ⟨y, there⟩⟩ := bound
  obtain ⟨z, later, -⟩ := State.later_of_after? h there
  exact ⟨State.run_of_after? h found, z, later⟩

theorem afterAll {moves : List Move} (bound : BoundFor l r node s) (h : s.afterAll? moves = some t) :
    BoundFor l r node t :=
  State.afterAll?_invariant (P := BoundFor l r node) (fun _ => True) bound
    (fun bound _ h => bound.step h) (fun _ _ => trivial) h

theorem joinsOnly (bound : BoundFor l r node s) : JoinsOnly l r node s := by
  obtain ⟨⟨x, found, rfl, rfl⟩, ⟨y, there⟩⟩ := bound
  refine ⟨fun fresh => ?_, fun {t} h k other => ?_⟩
  · rw [found, Option.map_some, Option.some.injEq] at fresh
    have going : ∀ failure, x.stage ≠ .ended failure := by simp [fresh]
    obtain ⟨t, h⟩ := State.stepRun?_of_going found there going
    cases Effect.of_stepRun? h with
    | @runJoined _ z w topology same target stage room =>
        cases found.symm.trans same
        cases there.symm.trans target
        refine ⟨_, y, { y with topology }, h, there, ?_, .inl room⟩
        simp [State.updateRun, State.setTopology, State.updateLaunch, there]
    | @runTurnedAway _ z w e same target stage taken =>
        cases found.symm.trans same
        cases there.symm.trans target
        exact ⟨_, y, y, h, there, there, .inr ⟨rfl, e, taken, rfl⟩⟩
    | runFinished same _ stage | runUnsent same _ stage | runSent same _ stage
    | runJudged same _ stage | runLeft same _ stage =>
        cases found.symm.trans same
        cases fresh.symm.trans stage
  · obtain ⟨z, topology, f, same, -, rfl, -⟩ := State.onward_of_stepRun? h
    cases found.symm.trans same
    exact List.getElem?_modify_ne _ _ other.symm

end BoundFor

theorem State.boundFor_newRun {s : State} {a : AppId} {application : Application}
    {config : Config.Node} {l : LaunchId} {x : Launch} (there : s.launches[l]? = some x) :
    BoundFor l s.runs.length (s.newRun config l).member
      (s.withRun a { s.newRun config l with application }) where
  run := ⟨{ s.newRun config l with application }, by simp [withRun], rfl, rfl⟩
  launch := ⟨x, there⟩

/-- A start is refused exactly if there is an objection, and then for the first one, without a change to
anything. Otherwise a run is added for the launch behind the first of the addresses that is bound, whose
version is the same. From then on, whatever happens, that is the launch which the run joins. -/
theorem start_is_checked_in_order {s : State} {a : AppId} {managed : ManagedApplication}
    (linked : s.IsLinked) (known : s.applications[a]? = some managed) (config : Config.Node)
    (entryPoint : String) :
    let call := (State.startApplication a config entryPoint s).finish
    let objections := s.objections a config entryPoint
    (∀ e elapsed t, call = some ⟨.error e, elapsed, t⟩ ↔ objections.head? = some e ∧ elapsed = 0 ∧ t = s) ∧
    (objections = [] ↔ ∃ t, call = some ⟨.ok (), 0, t⟩) ∧
    ∀ elapsed t, call = some ⟨.ok (), elapsed, t⟩ →
      elapsed = 0 ∧ ∃ application l x, Application.ofEntryPoint? entryPoint = some application ∧
        s.LeadsTo config l ∧ s.launches[l]? = some x ∧ x.topology.config.version = config.version ∧
        t = s.withRun a { s.newRun config l with application } ∧
        ∀ moves u, t.afterAll? moves = some u →
          JoinsOnly l s.runs.length (s.newRun config l).member u := by
  intro call objections
  have answered := State.answered linked known config entryPoint
  refine ⟨fun e elapsed t => ?_, ?_, fun elapsed t ok => ?_⟩
  · rw [State.startApplication_error, answered.error_iff]
  · simp only [objections, call, State.startApplication_ok, and_true, answered.ok_iff]
  · obtain ⟨started, none⟩ := State.startApplication_ok.mp ok
    rw [started] at answered
    cases answered with
    | @started application l x fine entry leads there version =>
        refine ⟨none, application, l, x, entry, leads, there, version, rfl, fun moves u went => ?_⟩
        exact ((State.boundFor_newRun there).afterAll went).joinsOnly

/-- Two clusters of different versions. Their addresses are bound, but nobody has joined yet. -/
def mixedVersions : State :=
  (State.afterAll? {}
    [.addCluster { name := "old" }, .addCluster { name := "new", basePort := 48500 }, .addApplication,
      .accept 0 { version := .release 2 8 0 } 1, .accept 1 {} 1, .bind 0, .bind 1]).getD {}

/-- A client of the newer version. -/
def newcomer (addresses : List String) : Config.Node :=
  ({ consistentId := some "guest" } : Config.Node).asClient addresses

/-- With nobody at the first address, it is the second one that counts, whatever is behind the third. -/
theorem start_is_checked_in_order_mixed :
    let name := Application.exceptionGeneration.entryPoint
    let forward := newcomer ["127.0.0.1:40000", "127.0.0.1:48500", "127.0.0.1:47500"]
    let backward := newcomer ["127.0.0.1:40000", "127.0.0.1:47500", "127.0.0.1:48500"]
    (State.startApplication 0 backward name mixedVersions).finish =
      some ⟨.error (.startupFailed name (.versionMismatch .dev (.release 2 8 0))), 0, mixedVersions⟩ ∧
    ∃ t, (State.startApplication 0 forward name mixedVersions).finish = some ⟨.ok (), 0, t⟩ ∧
      JoinsOnly 1 0 { id := "guest", client := true } t ∧
      (State.startApplication 0 forward name t).finish = some ⟨.error (.alreadyStarted name), 0, t⟩ := by
  intro name forward backward
  have went : State.afterAll? {} _ = some mixedVersions := State.afterAll?_getD (by decide +kernel)
  have reached : mixedVersions.IsReachable := ⟨0, .empty, distinction, _, went⟩
  have known : mixedVersions.applications[0]? = some ⟨none, none⟩ := by decide +kernel
  obtain ⟨refused, -, -⟩ := start_is_checked_in_order reached.isLinked known backward name
  obtain ⟨-, fine, started⟩ := start_is_checked_in_order reached.isLinked known forward name
  obtain ⟨t, ok⟩ := fine.mp (by decide +kernel)
  have again : t.IsReachable := by
    refine reached.step (m := .startRun 0 forward name) ?_
    rw [State.after?, (State.startApplication_ok.mp ok).1, Except.toOption]
  obtain ⟨-, application, l, x, entry, leads, there, version, rfl, joins⟩ := started 0 t ok
  have second : l = 1 := by
    have found : mixedVersions.network.resolve?
        ["127.0.0.1:40000", "127.0.0.1:48500", "127.0.0.1:47500"] = some 1 := by decide +kernel
    exact Option.some.inj (((State.leadsTo_iff rfl).mp leads).symm.trans found)
  cases second
  cases application
  have first : mixedVersions.runs.length = 0 := by decide +kernel
  have guest : (mixedVersions.newRun forward 1).member =
      { id := "guest", client := true } := by decide +kernel
  have running : (mixedVersions.withRun 0 (mixedVersions.newRun forward 1)).applications[0]? =
      some ⟨some 0, some 0⟩ := by decide +kernel
  obtain ⟨busy, -, -⟩ := start_is_checked_in_order again.isLinked running forward name
  refine ⟨(refused _ 0 _).mpr ⟨by decide +kernel, rfl, rfl⟩, _, ok, ?_, ?_⟩
  · have joining := joins [] _ rfl
    rw [first, guest] at joining
    exact joining
  · exact (busy _ 0 _).mpr ⟨by decide +kernel, rfl, rfl⟩

end ClusterHarness.InProcess
