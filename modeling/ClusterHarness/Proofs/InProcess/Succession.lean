import ClusterHarness.InProcess.Services
import ClusterHarness.Proofs.InProcess.Effect

/-! # One run after another

An application has one record of a run. A start needs it to be empty and fills it, and who waits for the
run takes it off before the run is over. So the runs of an application are kept apart by those who wait
for them, and not by their tasks.
-/

namespace ClusterHarness.InProcess

/-- The run that an application has on record. -/
def State.record (s : State) (a : AppId) : Option RunId :=
  s.applications[a]?.bind ManagedApplication.running

/-- The run that a move starts for an application. -/
def State.starts? (a : AppId) (s : State) : Move → Option RunId
  | .startRun b _ _ => if b = a then some s.runs.length else none
  | _ => none

/-- The run of an application that a move begins to wait for. -/
def State.waits? (a : AppId) (s : State) : Move → Option RunId
  | .takeRun b => if b = a then s.record a else none
  | _ => none

theorem State.record_of_modify {s t : State} {a b : AppId} {managed : ManagedApplication}
    {f : ManagedApplication → ManagedApplication} (known : s.applications[b]? = some managed)
    (applications : t.applications = s.applications.modify b f) :
    t.record a = if b = a then (f managed).running else s.record a := by
  rw [record, applications, List.getElem?_modify]
  by_cases same : b = a
  · subst same
    simp [known]
  · simp [same, record]

/-- What a move puts on record it has started, and what it takes off is waited for. -/
theorem State.record_step {s t : State} {a : AppId} {m : Move} (h : s.after? m = some t) :
    (s.record a).toList ++ (s.starts? a m).toList = (s.waits? a m).toList ++ (t.record a).toList := by
  cases Effect.of_after? h with
  | addApplication =>
      have same : State.record { s with applications := s.applications ++ [{}] } a = s.record a := by
        rw [record, record, List.getElem?_append]
        split
        · rfl
        · rename_i beyond
          rw [List.getElem?_eq_none (Nat.le_of_not_lt beyond), List.getElem?_singleton]
          split <;> rfl
      simp [starts?, waits?, same]
  | @runStarted b _ _ _ _ _ _ target known idle =>
      rw [record_of_modify (t := s.withRun _ _) known rfl]
      by_cases same : b = a
      · subst same
        simp [starts?, waits?, record, known, idle]
      · simp [starts?, waits?, same]
  | @runTaken b _ _ known running =>
      rw [record_of_modify (t := s.updateApplication b _) known rfl]
      by_cases same : b = a
      · subst same
        simp [starts?, waits?, record, known, running]
      · simp [starts?, waits?, same]
  | _ =>
      show (s.record a).toList ++ [] = [] ++ (s.record a).toList
      rw [List.append_nil, List.nil_append]

/-- The runs of an application are those that somebody has begun to wait for, and the one on record. -/
theorem State.starts_eq {now : Nat} {files : Files} {marks : Nat → String} {moves : List Move}
    {s : State} (a : AppId) (run : State.afterAll? { now, files, marks } moves = some s) :
    State.notes (State.starts? a) { now, files, marks } moves =
      State.notes (State.waits? a) { now, files, marks } moves ++ (s.record a).toList := by
  induction moves using List.reverseRecOn generalizing s with
  | nil =>
      cases run
      rfl
  | append_singleton moves m ih =>
      obtain ⟨u, before, last⟩ := State.afterAll?_concat.mp run
      rw [notes_concat before, notes_concat before, ih before, List.append_assoc, record_step last,
        List.append_assoc]

/-- A start that would be accepted is refused as long as there is a run on record. -/
theorem startRun_of_record {s t : State} {a : AppId} {r : RunId} {config : Config.Node}
    {entryPoint : String} (busy : s.record a = some r)
    (passes : (s.updateApplication a fun m => { m with running := none }).startRun a config entryPoint =
      .ok t) :
    s.startRun a config entryPoint = .error (.alreadyStarted entryPoint) := by
  obtain ⟨managed, known, running⟩ := Option.bind_eq_some_iff.mp busy
  have discover (application : Application) :
      (s.updateApplication a fun m => { m with running := none }).discover application config =
        s.discover application config := rfl
  simp only [State.startRun, discover] at passes ⊢
  cases entry : Application.ofEntryPoint? entryPoint with
  | none => simp [entry] at passes
  | some application =>
      cases valid : config.validate.mapError Error.invalidConfig with
      | error e => simp [entry, valid, bind, Except.bind] at passes
      | ok _ =>
          cases target : s.discover application config with
          | error e => simp [entry, valid, target, bind, Except.bind] at passes
          | ok found =>
              by_cases version : found.2.topology.config.version = config.version
              · simp [target, version, known, running, bind, Except.bind]
              · simp [entry, valid, target, version, bind, Except.bind] at passes

/-- An application starts only when somebody has begun to wait for each of its runs before. -/
theorem start_after_waits {now : Nat} {files : Files} {marks : Nat → String} {moves : List Move}
    {s t : State} {a : AppId} {config : Config.Node} {entryPoint : String}
    (run : State.afterAll? { now, files, marks } moves = some s)
    (started : s.startRun a config entryPoint = .ok t) :
    State.notes (State.starts? a) { now, files, marks } moves =
      State.notes (State.waits? a) { now, files, marks } moves := by
  have empty : s.record a = none := by
    cases Effect.of_startRun started with
    | runStarted target known idle => simp [State.record, known, idle]
  rw [State.starts_eq a run, empty, Option.toList_none, List.append_nil]

/-- An application starts only when all its runs before have ended, if none of those who wait for them
has given up or is still waiting. -/
theorem start_after_runs {now : Nat} {files : Files} {marks : Nat → String} {moves : List Move}
    {s t : State} {a : AppId} {config : Config.Node} {entryPoint : String}
    (run : State.afterAll? { now, files, marks } moves = some s)
    (started : s.startRun a config entryPoint = .ok t)
    (waited : ∀ r ∈ State.notes (State.waits? a) { now, files, marks } moves, s.hasEnded r = true) :
    ∀ r ∈ State.notes (State.starts? a) { now, files, marks } moves, s.hasEnded r = true := by
  rw [start_after_waits run started]
  exact waited

/-- An application that is started again while its caller waits for it. -/
def restartDuringWait : List Move :=
  let client := ({} : Config.Node).asClient ["127.0.0.1:47500"]
  let entryPoint := "compute.ExceptionGenerationApplication"
  [.addCluster { name := "cluster" }, .addApplication, .accept 0 {} 1, .bind 0, .install 0,
    .startRun 0 client entryPoint, .takeRun 0, .startRun 0 client entryPoint]

example : ((State.afterAll? {} restartDuringWait).map fun s => s.runs.map Run.stage) =
    some [.spawned, .spawned] := by
  decide +kernel

end ClusterHarness.InProcess
