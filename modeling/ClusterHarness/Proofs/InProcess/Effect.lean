import ClusterHarness.InProcess.Move
import Mathlib.Data.List.Induction
import Mathlib.Data.Option.Basic

/-! # What a move does

Each way in which a move can go, with what was found in the state in front of it and the state that
it leaves. The invariants of the process are proved one case of `Effect` at a time, and none of them
unfolds a step again.
-/

namespace ClusterHarness.InProcess

open Cluster Compute

theorem of_getElem?_concat {α : Type} {l : List α} {a b : α} {i : Nat} (h : (l ++ [a])[i]? = some b) :
    l[i]? = some b ∨ i = l.length ∧ b = a := by
  rw [List.getElem?_append] at h
  split at h
  · exact .inl h
  · rename_i beyond
    rw [List.getElem?_singleton] at h
    split at h
    · rename_i last
      cases h
      exact .inr ⟨Nat.le_antisymm (Nat.sub_eq_zero_iff_le.mp last) (Nat.le_of_not_lt beyond), rfl⟩
    · cases h

theorem of_getElem?_modify {α : Type} {l : List α} {f : α → α} {a b : α} {i k : Nat}
    (found : l[i]? = some a) (h : (l.modify i f)[k]? = some b) :
    k = i ∧ b = f a ∨ l[k]? = some b := by
  by_cases same : i = k
  · subst same
    rw [List.getElem?_modify_eq, found] at h
    cases h
    exact .inl ⟨rfl, rfl⟩
  · rw [List.getElem?_modify_ne _ _ same] at h
    exact .inr h

theorem map_modify_of_same {α β : Type} {f : α → α} {g : α → β} (l : List α) (i : Nat)
    (h : ∀ a, g (f a) = g a) : (l.modify i f).map g = l.map g := by
  induction l generalizing i with
  | nil => simp
  | cons a l ih =>
      cases i with
      | zero => simp [h]
      | succ i => simp [ih]

theorem modify_append_cons {α : Type} (f : α → α) (before after : List α) (a : α) :
    (before ++ a :: after).modify before.length f = before ++ f a :: after := by
  induction before with
  | nil => rfl
  | cons b before ih => simp [ih]

/-- The launch that comes of a request that is found acceptable. -/
def Launch.planned (c : ClusterId) (cluster : ManagedCluster) (config : Config.Node)
    (members : List Member) : Launch where
  cluster := c
  topology := { name := cluster.name, config }
  seats := members.map fun member => { member }

/-- A launch whose members join at a time. -/
def Launch.seated (time : Nat) (x : Launch) : Launch :=
  { x with seats := x.seats.map fun seat => { seat with stage := .due time }, phase := .waiting }

theorem Launch.addresses_seated (time : Nat) (x : Launch) :
    (x.seated time).addresses = x.addresses := by
  simp only [Launch.addresses, Launch.seated, List.filterMap_map, Function.comp_def]

def State.halted (s : State) (c : ClusterId) (l : LaunchId) (addresses : List String) : State :=
  { (s.updateCluster c fun c => { c with running := none }).updateLaunch l
      fun x => { x with shutdown := true } with
    network := s.network.unbindAll addresses }

def State.withRun (s : State) (a : AppId) (x : Run) : State :=
  { s with
    runs := s.runs ++ [x]
    applications := s.applications.modify a fun _ => ⟨some s.runs.length, some s.runs.length⟩
    generated := s.generated + 1 }

def State.updateRun (s : State) (r : RunId) (f : Run → Run) : State :=
  { s with runs := s.runs.modify r f }

/-- What a move can do to a state. -/
inductive Effect (s : State) : Move → State → Prop where
  | addCluster {cluster} (idle : cluster.running = none) :
      Effect s (.addCluster cluster) { s with clusters := s.clusters ++ [cluster] }
  | addApplication : Effect s .addApplication { s with applications := s.applications ++ [{}] }
  | accepted {c config nodes cluster members}
      (found : s.clusters[c]? = some cluster)
      (plan : cluster.plan config nodes (s.freshId cluster.name) = .ok members) :
      Effect s (.accept c config nodes)
        { s with
          launches := s.launches ++ [.planned c cluster config members]
          generated := s.generated + nodes }
  | bound {l x network} (found : s.launches[l]? = some x) (phase : x.phase = .accepted)
      (idle : s.running? x.cluster = none)
      (free : s.network.bindAll x.addresses l = .ok network) :
      Effect s (.bind l) ({ s with network }.setPhase l (.rendering 0))
  | refused {l x e} (found : s.launches[l]? = some x) (phase : x.phase = .accepted) :
      Effect s (.bind l) (s.setPhase l (.failed e))
  | rendered {l x written files} (found : s.launches[l]? = some x)
      (phase : x.phase = .rendering written) :
      Effect s (.render l) ({ s with files }.setPhase l (.rendering (written + 1)))
  | unrendered {l x written files e} (found : s.launches[l]? = some x)
      (phase : x.phase = .rendering written) :
      Effect s (.render l)
        ({ s with files, network := s.network.unbindAll x.addresses }.setPhase l (.failed e))
  | installed {l x written cluster} (found : s.launches[l]? = some x)
      (phase : x.phase = .rendering written) (owner : s.clusters[x.cluster]? = some cluster) :
      Effect s (.install l)
        ((s.updateLaunch l (Launch.seated (s.now + waitTime cluster.joinDelay))).updateCluster
          x.cluster fun c => { c with running := some l })
  | live {l x} (found : s.launches[l]? = some x) (phase : x.phase = .waiting)
      (enough : x.seats.length ≤ x.topology.announced.servers) :
      Effect s (.goLive l) (s.setPhase l .live)
  | abandoned {l x} (found : s.launches[l]? = some x) :
      Effect s (.abandon l) (s.setPhase l .abandoned)
  | halted {c l x} (running : s.running? c = some l) (found : s.launches[l]? = some x) :
      Effect s (.halt c) (s.halted c l x.addresses)
  | joined {l i x seat time topology} (found : s.launches[l]? = some x)
      (seated : x.seats[i]? = some seat) (due : seat.stage = .due time) (now : time ≤ s.now)
      (room : x.topology.join seat.member = .ok topology) :
      Effect s (.joinSeat l i) ((s.setTopology l topology).setSeat l i .joined)
  | turnedAway {l i x seat time e} (found : s.launches[l]? = some x)
      (seated : x.seats[i]? = some seat) (due : seat.stage = .due time) (now : time ≤ s.now)
      (taken : x.topology.join seat.member = .error e) :
      Effect s (.joinSeat l i) (s.setSeat l i (.ended false))
  | calledOff {l i x seat time} (found : s.launches[l]? = some x)
      (seated : x.seats[i]? = some seat) (told : x.shutdown = true)
      (due : seat.stage = .due time) :
      Effect s (.leaveSeat l i) (s.setSeat l i (.ended false))
  | left {l i x seat} (found : s.launches[l]? = some x) (seated : x.seats[i]? = some seat)
      (told : x.shutdown = true) (there : seat.stage = .joined) :
      Effect s (.leaveSeat l i)
        ((s.setTopology l ((x.topology.leave? seat.member.id).getD x.topology)).setSeat l i
          (.ended true))
  | runStarted {a config entryPoint application managed l x}
      (target : s.discover application config = .ok (l, x))
      (known : s.applications[a]? = some managed) (idle : managed.running = none) :
      Effect s (.startRun a config entryPoint)
        (s.withRun a
          { application
            launch := l
            context := { nodeId := config.consistentId.getD (s.freshId "app" 0), config } })
  | runTaken {a managed r} (known : s.applications[a]? = some managed)
      (running : managed.running = some r) :
      Effect s (.takeRun a) (s.updateApplication a fun m => { m with running := none })
  | runJoined {r x launch topology} (found : s.runs[r]? = some x)
      (target : s.launches[x.launch]? = some launch) (stage : x.stage = .spawned)
      (room : launch.topology.join x.member = .ok topology) :
      Effect s (.stepRun r)
        ((s.setTopology x.launch topology).updateRun r fun x =>
          { x with context := x.context.initialized, stage := .trying ExceptionGeneration.trials })
  | runTurnedAway {r x launch e} (found : s.runs[r]? = some x)
      (target : s.launches[x.launch]? = some launch) (stage : x.stage = .spawned)
      (taken : launch.topology.join x.member = .error e) :
      Effect s (.stepRun r) (s.setRun r (.ended (some e)))
  | runFinished {r x launch} (found : s.runs[r]? = some x)
      (target : s.launches[x.launch]? = some launch) (stage : x.stage = .trying []) :
      Effect s (.stepRun r)
        (s.updateRun r fun x => { x with context := x.context.finished, stage := .leaving none })
  | runUnsent {r x launch trial rest failure} (found : s.runs[r]? = some x)
      (target : s.launches[x.launch]? = some launch) (stage : x.stage = .trying (trial :: rest))
      (failed : Shipment.send x.caller launch.topology trial.toJob = .error failure) :
      Effect s (.stepRun r) (s.setRun r (State.judged trial rest (.error failure)))
  | runSent {r x launch trial rest shipment topology} (found : s.runs[r]? = some x)
      (target : s.launches[x.launch]? = some launch) (stage : x.stage = .trying (trial :: rest))
      (sent : Shipment.send x.caller launch.topology trial.toJob = .ok (shipment, topology)) :
      Effect s (.stepRun r)
        ((s.setTopology x.launch topology).setRun r (.sent trial shipment rest))
  | runJudged {r x launch trial shipment rest} (found : s.runs[r]? = some x)
      (target : s.launches[x.launch]? = some launch) (stage : x.stage = .sent trial shipment rest) :
      Effect s (.stepRun r) (s.setRun r (State.judged trial rest shipment.answer))
  | runLeft {r x launch failure} (found : s.runs[r]? = some x)
      (target : s.launches[x.launch]? = some launch) (stage : x.stage = .leaving failure) :
      Effect s (.stepRun r)
        ((s.setTopology x.launch ((launch.topology.leave? x.member.id).getD launch.topology)).setRun
          r (.ended failure))
  | passed {duration} : Effect s (.pass duration) { s with now := s.now + duration }

namespace Effect

private theorem ok_of_toOption {ε α : Type} {x : Except ε α} {a : α} (h : x.toOption = some a) :
    x = .ok a := by
  cases x with
  | error e => cases h
  | ok b => cases h; rfl

theorem of_accept {s t : State} {c : ClusterId} {config : Config.Node} {nodes : Nat} {l : LaunchId}
    (h : s.accept c config nodes = .ok (l, t)) : Effect s (.accept c config nodes) t := by
  simp only [State.accept] at h
  split at h
  · simp at h
  · rename_i cluster found
    cases plan : cluster.plan config nodes (s.freshId cluster.name) with
    | error e => simp [plan, bind, Except.bind] at h
    | ok members =>
        simp only [plan, bind, Except.bind, pure, Except.pure, Except.ok.injEq, Prod.mk.injEq] at h
        obtain ⟨-, rfl⟩ := h
        exact .accepted found plan

theorem of_bind? {s t : State} {l : LaunchId} (h : s.bind? l = some t) : Effect s (.bind l) t := by
  simp only [State.bind?, Option.bind_eq_bind, Option.bind_eq_some_iff, Option.guard_eq_some'] at h
  obtain ⟨x, found, -, phase, h⟩ := h
  split at h
  · cases h
    exact .refused found phase
  · rename_i idle
    split at h
    · cases h
      exact .refused found phase
    · rename_i network free
      cases h
      exact .bound found phase (by simpa using idle) free

theorem of_render? {s t : State} {l : LaunchId} (h : s.render? l = some t) :
    Effect s (.render l) t := by
  simp only [State.render?, Option.bind_eq_bind, Option.bind_eq_some_iff] at h
  obtain ⟨x, found, h⟩ := h
  split at h
  · rename_i written phase
    simp only [Option.bind_eq_some_iff] at h
    obtain ⟨cluster, -, ⟨folder, format⟩, -, seat, -, h⟩ := h
    split at h
    · cases h
      exact .rendered found phase
    · cases h
      exact .unrendered found phase
  · cases h

theorem of_install? {s t : State} {l : LaunchId} (h : s.install? l = some t) :
    Effect s (.install l) t := by
  simp only [State.install?, Option.bind_eq_bind, Option.bind_eq_some_iff] at h
  obtain ⟨x, found, cluster, owner, h⟩ := h
  split at h
  · rename_i written phase
    simp only [Option.bind_eq_some_iff] at h
    obtain ⟨-, -, h⟩ := h
    cases h
    have same : s.updateLaunch l (Launch.seated (s.now + waitTime cluster.joinDelay)) =
        s.updateLaunch l fun y => { y with
          seats := x.seats.map fun seat =>
            { seat with stage := .due (s.now + waitTime cluster.joinDelay) }
          phase := .waiting } := by
      simp only [State.updateLaunch, State.mk.injEq, true_and, and_true]
      apply List.ext_getElem?
      intro k
      by_cases hk : l = k
      · subst hk
        simp [found, Launch.seated]
      · simp [hk]
    rw [← same]
    exact .installed found phase owner
  · cases h

theorem of_goLive? {s t : State} {l : LaunchId} (h : s.goLive? l = some t) :
    Effect s (.goLive l) t := by
  simp only [State.goLive?, Option.bind_eq_bind, Option.bind_eq_some_iff, Option.guard_eq_some',
    Bool.and_eq_true, decide_eq_true_eq] at h
  obtain ⟨x, found, -, ⟨phase, enough⟩, h⟩ := h
  cases h
  exact .live found phase enough

theorem of_abandon? {s t : State} {l : LaunchId} (h : s.abandon? l = some t) :
    Effect s (.abandon l) t := by
  simp only [State.abandon?, Option.bind_eq_bind, Option.bind_eq_some_iff] at h
  obtain ⟨x, found, -, -, h⟩ := h
  cases h
  exact .abandoned found

theorem of_halt? {s t : State} {c : ClusterId} {l : LaunchId} (h : s.halt? c = some (l, t)) :
    Effect s (.halt c) t := by
  simp only [State.halt?, Option.bind_eq_bind, Option.bind_eq_some_iff] at h
  obtain ⟨k, running, x, found, h⟩ := h
  cases h
  exact .halted running found

theorem of_joinSeat? {s t : State} {l : LaunchId} {i : Nat} (h : s.joinSeat? l i = some t) :
    Effect s (.joinSeat l i) t := by
  simp only [State.joinSeat?, Option.bind_eq_bind, Option.bind_eq_some_iff] at h
  obtain ⟨x, found, seat, seated, h⟩ := h
  split at h
  · rename_i time due
    simp only [Option.bind_eq_some_iff, Option.guard_eq_some'] at h
    obtain ⟨-, now, h⟩ := h
    split at h
    · rename_i topology room
      cases h
      exact .joined found seated due now room
    · rename_i e taken
      cases h
      exact .turnedAway found seated due now taken
  · cases h

theorem of_leaveSeat? {s t : State} {l : LaunchId} {i : Nat} (h : s.leaveSeat? l i = some t) :
    Effect s (.leaveSeat l i) t := by
  simp only [State.leaveSeat?, Option.bind_eq_bind, Option.bind_eq_some_iff,
    Option.guard_eq_some'] at h
  obtain ⟨x, found, seat, seated, -, told, h⟩ := h
  split at h
  · rename_i time due
    cases h
    exact .calledOff found seated told due
  · rename_i there
    cases h
    exact .left found seated told there
  · cases h

theorem of_startRun {s t : State} {a : AppId} {config : Config.Node} {entryPoint : String}
    (h : s.startRun a config entryPoint = .ok t) : Effect s (.startRun a config entryPoint) t := by
  simp only [State.startRun] at h
  split at h
  · cases h
  · rename_i application _
    cases valid : config.validate.mapError Error.invalidConfig with
    | error e => simp [valid, bind, Except.bind] at h
    | ok _ =>
        cases target : s.discover application config with
        | error e => simp [valid, target, bind, Except.bind] at h
        | ok found =>
            obtain ⟨l, x⟩ := found
            simp only [valid, target, bind, Except.bind, pure, Except.pure] at h
            repeat (split at h <;> try cases h)
            rename_i managed known idle
            exact .runStarted target known (by simpa using idle)

theorem of_takeRun? {s t : State} {a : AppId} {r : RunId} (h : s.takeRun? a = some (r, t)) :
    Effect s (.takeRun a) t := by
  simp only [State.takeRun?, Option.bind_eq_bind, Option.bind_eq_some_iff] at h
  obtain ⟨managed, known, k, running, h⟩ := h
  cases h
  exact .runTaken known running

theorem of_stepRun? {s t : State} {r : RunId} (h : s.stepRun? r = some t) :
    Effect s (.stepRun r) t := by
  simp only [State.stepRun?, Option.bind_eq_bind, Option.bind_eq_some_iff] at h
  obtain ⟨x, found, launch, target, h⟩ := h
  cases stage : x.stage with
  | spawned =>
      simp only [stage] at h
      split at h
      · rename_i e taken
        cases h
        exact .runTurnedAway found target stage taken
      · rename_i topology room
        cases h
        exact .runJoined found target stage room
  | trying rest =>
      cases rest with
      | nil =>
          simp only [stage] at h
          cases h
          exact .runFinished found target stage
      | cons trial rest =>
          simp only [stage] at h
          split at h
          · rename_i failure failed
            cases h
            exact .runUnsent found target stage failed
          · rename_i shipment topology sent
            cases h
            exact .runSent found target stage sent
  | sent trial shipment rest =>
      simp only [stage] at h
      cases h
      exact .runJudged found target stage
  | leaving failure =>
      simp only [stage] at h
      cases h
      exact .runLeft found target stage
  | ended failure =>
      simp only [stage] at h
      cases h

/-- Every move that is possible has one of the effects. -/
theorem of_after? {s t : State} {m : Move} (h : s.after? m = some t) : Effect s m t := by
  cases m with
  | addCluster cluster =>
      simp only [State.after?] at h
      split at h
      · cases h
      · rename_i idle
        cases h
        exact .addCluster (by simpa using idle)
  | addApplication => cases h; exact .addApplication
  | accept c config nodes =>
      simp only [State.after?, Option.map_eq_some_iff] at h
      obtain ⟨⟨l, t⟩, h, rfl⟩ := h
      exact of_accept (ok_of_toOption h)
  | bind l => exact of_bind? h
  | render l => exact of_render? h
  | install l => exact of_install? h
  | goLive l => exact of_goLive? h
  | abandon l => exact of_abandon? h
  | halt c =>
      simp only [State.after?, Option.map_eq_some_iff] at h
      obtain ⟨⟨l, t⟩, h, rfl⟩ := h
      exact of_halt? h
  | joinSeat l i => exact of_joinSeat? h
  | leaveSeat l i => exact of_leaveSeat? h
  | startRun a config entryPoint => exact of_startRun (ok_of_toOption h)
  | takeRun a =>
      simp only [State.after?, Option.map_eq_some_iff] at h
      obtain ⟨⟨r, t⟩, h, rfl⟩ := h
      exact of_takeRun? h
  | stepRun r => exact of_stepRun? h
  | pass duration => cases h; exact .passed

end Effect

/-! ## Moves one after another -/

theorem State.afterAll?_concat {s u : State} {moves : List Move} {m : Move} :
    s.afterAll? (moves ++ [m]) = some u ↔
      ∃ t, s.afterAll? moves = some t ∧ t.after? m = some u := by
  simp [State.afterAll?, Option.bind_eq_some_iff]

theorem State.afterAll?_cons {s u : State} {moves : List Move} {m : Move} :
    s.afterAll? (m :: moves) = some u ↔ ∃ t, s.after? m = some t ∧ t.afterAll? moves = some u := by
  simp [State.afterAll?, Option.bind_eq_some_iff]

theorem State.afterAll?_getD {s : State} {moves : List Move}
    (possible : (s.afterAll? moves).isSome = true) :
    s.afterAll? moves = some ((s.afterAll? moves).getD {}) := by
  obtain ⟨t, went⟩ := Option.isSome_iff_exists.mp possible
  rw [went, Option.getD_some]

theorem State.afterAll?_append {s t u : State} {moves more : List Move}
    (first : s.afterAll? moves = some t) (next : t.afterAll? more = some u) :
    s.afterAll? (moves ++ more) = some u := by
  rw [afterAll?] at first next ⊢
  rw [List.foldlM_append, first]
  exact next

/-- What there is to note of each of some moves, with the state in front of it. -/
def State.notes {α : Type} (note : State → Move → Option α) : State → List Move → List α
  | _, [] => []
  | s, m :: moves =>
    (note s m).toList ++
      match s.after? m with
      | some t => notes note t moves
      | none => []

theorem State.notes_concat {α : Type} {note : State → Move → Option α} {s t : State}
    {moves : List Move} {m : Move} (h : s.afterAll? moves = some t) :
    s.notes note (moves ++ [m]) = s.notes note moves ++ (note t m).toList := by
  induction moves generalizing s with
  | nil =>
      cases h
      simp only [List.nil_append, notes]
      cases t.after? m <;> simp
  | cons n moves ih =>
      simp only [afterAll?, List.foldlM_cons, Option.bind_eq_bind, Option.bind_eq_some_iff] at h
      obtain ⟨u, first, rest⟩ := h
      simp only [List.cons_append, notes, first, ih rest, List.append_assoc]

/-- What a state has, and every move of some kind keeps, is there after any such moves. -/
theorem State.afterAll?_invariant {P : State → Prop} (kind : Move → Prop) {s t : State}
    {moves : List Move} (start : P s)
    (step : ∀ {u v : State} {m : Move}, P u → kind m → u.after? m = some v → P v)
    (all : ∀ m ∈ moves, kind m) (h : s.afterAll? moves = some t) : P t := by
  induction moves using List.reverseRecOn generalizing t with
  | nil => cases h; exact start
  | append_singleton moves m ih =>
      obtain ⟨u, before, last⟩ := State.afterAll?_concat.mp h
      have hu := ih (fun k hk => all k (List.mem_append_left _ hk)) before
      exact step hu (all m (by simp)) last

end ClusterHarness.InProcess
