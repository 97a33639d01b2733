import ClusterHarness.Proofs.Scenario.Polls
import ClusterHarness.Scenario.ComputeExceptions

/-! # Calls and replies

Collaborators whose calls are noted down with everything that can be told of the reply: what it is, how
long it takes, and whether it comes at the last moment of its time. A scenario cannot tell them from
those that note nothing.
-/

namespace ClusterHarness

/-- What a call would come to if it were left alone. -/
structure Reply (α : Type) where
  /-- The result, and how long it takes. There is nothing when the call never ends. -/
  ended : Option (Except Error α × Nat)
  late : Bool

/-- What can be told of the reply to a call. -/
def Course.reply (c : Course σ α) : Reply α :=
  ⟨c.finish.map fun x => (x.result, x.elapsed), c.late⟩

/-- What comes of waiting for a reply until a bound runs out. -/
def Reply.within (operation : String) (limit : Nat) (r : Reply α) : Except Error α :=
  match r.ended with
  | some (result, elapsed) =>
    if elapsed < limit || (elapsed == limit && !r.late) then result
    else .error (.timeout operation limit)
  | none => .error (.timeout operation limit)

theorem Course.reply_ended {c : Course σ α} {result : Except Error α} {elapsed : Nat} {t : σ}
    (h : c.finish = some ⟨result, elapsed, t⟩) : c.reply.ended = some (result, elapsed) := by
  rw [reply, h]
  rfl

theorem Course.within_result (operation : String) (limit : Nat) (c : Course σ α) :
    (c.within operation limit).result = c.reply.within operation limit := by
  obtain ⟨finish, abandoned, late⟩ := c
  cases finish with
  | none => rfl
  | some x =>
      cases soon : decide (x.elapsed < limit) || (x.elapsed == limit && !late) <;>
        simp [within, Reply.within, reply, endsWithin, soon]

inductive Event where
  | startCluster (config : Config.Node) (nodes : Nat) (reply : Reply Unit)
  | topologyVersion (reply : Reply Nat)
  | clusterConfig (config : Option Config.Node)
  | discoveryAddresses (addresses : List String)
  | stopCluster (reply : Reply Unit)
  | startApplication (config : Config.Node) (entryPoint : String) (params : Json)
      (reply : Reply Unit)
  | awaitStopped (reply : Reply Unit)

/-- A call whose reply is noted down behind what has been noted before. -/
def Course.noted (event : Reply α → Event) (log : List Event) (c : Course σ α) :
    Course (σ × List Event) α :=
  c.mapState fun t => (t, log ++ [event c.reply])

theorem Course.finish_noted {event : Reply α → Event} {log : List Event} {c : Course σ α}
    {result : Except Error α} {elapsed : Nat} {t : σ × List Event} :
    (c.noted event log).finish = some ⟨result, elapsed, t⟩ ↔
      c.finish = some ⟨result, elapsed, t.1⟩ ∧ t.2 = log ++ [event c.reply] := by
  simp only [noted, mapState, Option.map_eq_some_iff]
  constructor
  · rintro ⟨x, found, same⟩
    cases x
    cases same
    exact ⟨found, rfl⟩
  · rintro ⟨found, notes⟩
    exact ⟨_, found, by rw [← notes]⟩

theorem Course.noted_finish {c : Course σ α} {result : Except Error α} {elapsed : Nat} {t : σ}
    (event : Reply α → Event) (log : List Event) (h : c.finish = some ⟨result, elapsed, t⟩) :
    (c.noted event log).finish = some ⟨result, elapsed, t, log ++ [event c.reply]⟩ :=
  finish_noted.mpr ⟨h, rfl⟩

theorem Course.within_noted (event : Reply α → Event) (log : List Event) (operation : String)
    (limit : Nat) (c : Course σ α) : (c.noted event log).within operation limit =
      ⟨(c.within operation limit).result, (c.within operation limit).elapsed,
        (c.within operation limit).state, log ++ [event c.reply]⟩ := by
  obtain ⟨finish, abandoned, late⟩ := c
  cases finish with
  | none => rfl
  | some x =>
      cases soon : decide (x.elapsed < limit) || (x.elapsed == limit && !late) <;>
        simp [noted, mapState, within, endsWithin, soon]

/-- Collaborators that note down every call with its reply. -/
def Collaborators.observed (c : Collaborators σ) : Collaborators (σ × List Event) where
  startCluster config nodes s :=
    (c.startCluster config nodes s.1).noted (.startCluster config nodes) s.2
  topologyVersion s := (c.topologyVersion s.1).noted .topologyVersion s.2
  clusterConfig s :=
    let (config, t) := c.clusterConfig s.1
    (config, t, s.2 ++ [.clusterConfig config])
  discoveryAddresses s :=
    let (addresses, t) := c.discoveryAddresses s.1
    (addresses, t, s.2 ++ [.discoveryAddresses addresses])
  stopCluster s := (c.stopCluster s.1).noted .stopCluster s.2
  startApplication config entryPoint params s :=
    (c.startApplication config entryPoint params s.1).noted
      (.startApplication config entryPoint params) s.2
  awaitStopped s := (c.awaitStopped s.1).noted .awaitStopped s.2
  pass duration s := (c.pass duration s.1, s.2)

/-! ## Observing changes nothing -/

/-- What has come of an observed activity, without the notes. -/
def Finish.unnoted (x : Finish (σ × List Event) α) : Finish σ α := ⟨x.result, x.elapsed, x.state.1⟩

/-- An activity on noted states does what another does on plain ones. -/
def Activity.Mirrors (x : Activity (σ × List Event) α) (y : Activity σ α) : Prop :=
  ∀ s log, (x (s, log)).map Finish.unnoted = y s

namespace Activity.Mirrors

variable {σ α β : Type}

theorem pure (a : α) : Mirrors (σ := σ) (Activity.pure a) (Activity.pure a) := fun _ _ => rfl

theorem fail (e : Error) : Mirrors (σ := σ) (α := α) (Activity.fail e) (Activity.fail e) :=
  fun _ _ => rfl

theorem bind {x : Activity (σ × List Event) α} {y : Activity σ α}
    {f : α → Activity (σ × List Event) β} {g : α → Activity σ β} (first : Mirrors x y)
    (next : ∀ a, Mirrors (f a) (g a)) : Mirrors (x.bind f) (y.bind g) := by
  intro s log
  rw [Activity.bind, Activity.bind, ← first s log]
  rcases x (s, log) with _ | ⟨_ | a, elapsed, t⟩
  · rfl
  · rfl
  · simp only [Option.map_some, Finish.unnoted]
    rw [← next a t.1 t.2]
    cases f a t with
    | none => rfl
    | some z => rfl

theorem call {x : σ × List Event → Course (σ × List Event) α} {y : σ → Course σ α}
    {event : Reply α → Event} (same : ∀ s, x s = (y s.1).noted event s.2) :
    Mirrors (Activity.call x) (Activity.call y) := by
  intro s log
  rw [Activity.call, Activity.call, same, Course.noted, Course.mapState]
  cases (y s).finish with
  | none => rfl
  | some z => rfl

theorem bounded {x : σ × List Event → Course (σ × List Event) α} {y : σ → Course σ α}
    {event : Reply α → Event} {operation : String} {limit : Nat}
    (same : ∀ s, x s = (y s.1).noted event s.2) :
    Mirrors (Activity.bounded operation limit x) (Activity.bounded operation limit y) := by
  intro s log
  rw [Activity.bounded, Activity.bounded, same, Course.within_noted]
  rfl

theorem andFinally {x z : Activity (σ × List Event) Unit} {y w : Activity σ Unit}
    (first : Mirrors x y) (last : Mirrors z w) : Mirrors (x.andFinally z) (y.andFinally w) := by
  intro s log
  rw [Activity.andFinally, Activity.andFinally, ← first s log]
  cases x (s, log) with
  | none => rfl
  | some a =>
      simp only [Option.map_some, Finish.unnoted]
      rw [← last a.state.1 a.state.2]
      cases z a.state with
      | none => rfl
      | some b => rfl

theorem clusterConfig (c : Collaborators σ) :
    Mirrors (Activity.read c.observed.clusterConfig) (Activity.read c.clusterConfig) :=
  fun _ _ => rfl

theorem discoveryAddresses (c : Collaborators σ) :
    Mirrors (Activity.read c.observed.discoveryAddresses) (Activity.read c.discoveryAddresses) :=
  fun _ _ => rfl

end Activity.Mirrors

/-! ### The polls of a check -/

section

open TopologyCheck

variable {σ : Type} {c : Collaborators σ} {expected : Nat} {settings : Config.TopologyCheck}
  {elapsed : Nat}

theorem polls_of_observed {s : σ × List Event} {x : Finish (σ × List Event) Unit}
    (h : Polls c.observed.topologyVersion c.observed.pass expected settings elapsed s x) :
    Polls c.topologyVersion c.pass expected settings elapsed s.1 x.unnoted := by
  induction h with
  | failed reply => exact .failed (Course.finish_noted.mp reply).1
  | seen reply => exact .seen (Course.finish_noted.mp reply).1
  | missed reply other spent => exact .missed (Course.finish_noted.mp reply).1 other spent
  | again reply low early rest ih => exact .again (Course.finish_noted.mp reply).1 low early ih

theorem observed_polls {s : σ} {x : Finish σ Unit} (log : List Event)
    (h : Polls c.topologyVersion c.pass expected settings elapsed s x) :
    ∃ y, Polls c.observed.topologyVersion c.observed.pass expected settings elapsed (s, log) y := by
  induction h generalizing log with
  | failed reply => exact ⟨_, .failed (Course.noted_finish _ log reply)⟩
  | seen reply => exact ⟨_, .seen (Course.noted_finish _ log reply)⟩
  | missed reply other spent => exact ⟨_, .missed (Course.noted_finish _ log reply) other spent⟩
  | again reply low early rest ih =>
      obtain ⟨y, more⟩ := ih _
      exact ⟨y, .again (Course.noted_finish _ log reply) low early more⟩

theorem Activity.Mirrors.check : Mirrors
    (TopologyCheck.run c.observed.topologyVersion c.observed.pass expected settings)
    (TopologyCheck.run c.topologyVersion c.pass expected settings) := by
  intro s log
  simp only [TopologyCheck.run]
  cases noted : settings.pollFrom c.observed.topologyVersion c.observed.pass expected 0 (s, log) with
  | some y =>
      rw [Option.map_some]
      exact (pollFrom_of_polls (polls_of_observed (polls_of_pollFrom noted))).symm
  | none =>
      cases plain : settings.pollFrom c.topologyVersion c.pass expected 0 s with
      | none => rfl
      | some x =>
          obtain ⟨y, more⟩ := observed_polls log (polls_of_pollFrom plain)
          rw [pollFrom_of_polls more] at noted
          cases noted

end

/-- A scenario goes as if nobody noted anything down. -/
theorem ComputeExceptions.run_observed (c : Collaborators σ) (context : TestContext) :
    Activity.Mirrors (run c.observed context) (run c context) := by
  rw [run, run]
  split
  · exact .fail _
  · refine .andFinally (.bind (.bounded fun _ => rfl) fun _ => .bind .check fun _ => .bind ?_
      fun config => .bind (.call fun _ => rfl) fun _ => .bind (.bounded fun _ => rfl) fun _ => .check)
      (.bounded fun _ => rfl)
    unfold clientConfig
    refine .bind (.clusterConfig c) fun config => ?_
    cases config with
    | none => exact .fail _
    | some config => exact .bind (.discoveryAddresses c) fun _ => .pure _

end ClusterHarness
