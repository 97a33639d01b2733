import ClusterHarness.Proofs.Scenario.Duration
import ClusterHarness.Proofs.Scenario.Trace
import ClusterHarness.Scenario.Script

/-! # The protocol of a scenario

Which calls a scenario makes, in which order, and what it returns, whatever its collaborators do. The
steps are taken in turn up to the first that fails; the servers are stopped behind them in any case.
-/

namespace ClusterHarness

/-- What a step may do: the calls that it makes with their replies, and its verdict. -/
abbrev Step := List Event → Except Error Unit → Prop

/-- Steps one after another, up to the first that fails. -/
inductive InTurn : List Step → Step where
  | done : InTurn [] [] (.ok ())
  | failed {step rest events e} (h : step events (.error e)) : InTurn (step :: rest) events (.error e)
  | next {step rest events more verdict} (h : step events (.ok ())) (others : InTurn rest more verdict) :
      InTurn (step :: rest) (events ++ more) verdict

/-- The polls of a check that has gone on for some time, and its verdict. -/
inductive Polled (expected : Nat) (settings : Config.TopologyCheck) : Nat → Step where
  | failed {elapsed reply e delay} (ended : reply.ended = some (.error e, delay)) :
      Polled expected settings elapsed [.topologyVersion reply] (.error e)
  | seen {elapsed reply delay} (ended : reply.ended = some (.ok expected, delay)) :
      Polled expected settings elapsed [.topologyVersion reply] (.ok ())
  | missed {elapsed reply observed delay} (ended : reply.ended = some (.ok observed, delay))
      (other : observed ≠ expected)
      (spent : expected < observed ∨ settings.checkTimeout.toNat ≤ elapsed + delay) :
      Polled expected settings elapsed [.topologyVersion reply]
        (.error (.topologyMismatch expected observed))
  | again {elapsed reply observed delay events verdict}
      (ended : reply.ended = some (.ok observed, delay)) (low : observed < expected)
      (early : elapsed + delay < settings.checkTimeout.toNat)
      (rest : Polled expected settings (elapsed + delay + waitTime settings.pollInterval.toNat)
        events verdict) :
      Polled expected settings elapsed (.topologyVersion reply :: events) verdict

/-- An activity makes calls and ends as a condition says. -/
def Activity.Does (x : Activity (σ × List Event) α) (post : List Event → Except Error α → Prop) :
    Prop :=
  ∀ s log y, x (s, log) = some y → ∃ events, y.state.2 = log ++ events ∧ post events y.result

namespace ComputeExceptions

def Started (context : TestContext) : Step := fun events verdict =>
  ∃ reply, events = [.startCluster (nodeConfig context) (context.nodes - 1) reply] ∧
    verdict = reply.within "cluster start" context.harness.cluster.startupTimeout.toNat

def Checked (context : TestContext) (expected : Nat) : Step :=
  Polled expected context.harness.topology 0

def Configured (config : Config.Node) : Step := fun events verdict =>
  events = [.clusterConfig none] ∧ verdict = .error (.notStarted "cluster") ∨
    events = [.clusterConfig (some config)] ∧ verdict = .ok ()

def Addressed (addresses : List String) : Step := fun events verdict =>
  events = [.discoveryAddresses addresses] ∧ verdict = .ok ()

/-- The application is started, with the configuration of the servers except that it is a client's and
points at them. -/
def ApplicationStarted (config : Config.Node) (addresses : List String) : Step := fun events verdict =>
  ∃ reply elapsed,
    events = [.startApplication
      { config with clientMode := true, discovery := some { addresses } }
      "compute.ExceptionGenerationApplication" (.object []) reply] ∧
    reply.ended = some (verdict, elapsed)

def Awaited (context : TestContext) : Step := fun events verdict =>
  ∃ reply, events = [.awaitStopped reply] ∧
    verdict = reply.within "application await_stopped"
      context.harness.application.awaitStoppedTimeout.toNat

/-- The steps of the scenario before the servers are stopped. -/
def steps (context : TestContext) (config : Config.Node) (addresses : List String) : List Step :=
  [Started context, Checked context (context.nodes - 1), Configured config, Addressed addresses,
    ApplicationStarted config addresses, Awaited context, Checked context (context.nodes + 1)]

end ComputeExceptions

/-! ## What activities do -/

namespace Activity.Does

variable {σ : Type} {c : Collaborators σ}

theorem bounded {x : σ × List Event → Course (σ × List Event) Unit} {y : σ → Course σ Unit}
    {event : Reply Unit → Event} {operation : String} {limit : Nat}
    (same : ∀ s, x s = (y s.1).noted event s.2) :
    Does (Activity.bounded operation limit x) fun events verdict =>
      ∃ reply, events = [event reply] ∧ verdict = reply.within operation limit := by
  intro s log z h
  rw [Activity.bounded, same, Course.within_noted] at h
  cases h
  exact ⟨_, rfl, _, rfl, Course.within_result _ _ _⟩

theorem call {x : σ × List Event → Course (σ × List Event) Unit} {y : σ → Course σ Unit}
    {event : Reply Unit → Event} (same : ∀ s, x s = (y s.1).noted event s.2) :
    Does (Activity.call x) fun events verdict =>
      ∃ reply elapsed, events = [event reply] ∧ reply.ended = some (verdict, elapsed) := by
  intro s log z h
  rw [Activity.call, same] at h
  obtain ⟨found, notes⟩ := Course.finish_noted.mp h
  exact ⟨_, notes, _, z.elapsed, rfl, Course.reply_ended found⟩

theorem polls {expected : Nat} {settings : Config.TopologyCheck} {elapsed : Nat}
    {s : σ × List Event} {x : Finish (σ × List Event) Unit}
    (h : TopologyCheck.Polls c.observed.topologyVersion c.observed.pass expected settings elapsed s x) :
    ∃ events, x.state.2 = s.2 ++ events ∧ Polled expected settings elapsed events x.result := by
  induction h with
  | failed reply =>
      obtain ⟨found, notes⟩ := Course.finish_noted.mp reply
      exact ⟨_, notes, .failed (Course.reply_ended found)⟩
  | seen reply =>
      obtain ⟨found, notes⟩ := Course.finish_noted.mp reply
      exact ⟨_, notes, .seen (Course.reply_ended found)⟩
  | missed reply other spent =>
      obtain ⟨found, notes⟩ := Course.finish_noted.mp reply
      exact ⟨_, notes, .missed (Course.reply_ended found) other spent⟩
  | again reply low early rest ih =>
      obtain ⟨found, notes⟩ := Course.finish_noted.mp reply
      obtain ⟨events, more, polled⟩ := ih
      refine ⟨_ :: events, ?_, .again (Course.reply_ended found) low early polled⟩
      rw [more]
      simp only [Collaborators.observed, notes, List.append_assoc, List.singleton_append]

theorem check {expected : Nat} {settings : Config.TopologyCheck} :
    Does (TopologyCheck.run c.observed.topologyVersion c.observed.pass expected settings)
      (Polled expected settings 0) :=
  fun _ _ _ h => polls (TopologyCheck.polls_of_pollFrom h)

theorem cons {α : Type} {x : Activity (σ × List Event) Unit} {y : Activity (σ × List Event) Unit}
    {step : Step} {rest : α → List Step} (start : α) (first : Does x step)
    (others : Does y fun events verdict => ∃ a, InTurn (rest a) events verdict) :
    Does (x.bind fun _ => y) fun events verdict => ∃ a, InTurn (step :: rest a) events verdict := by
  intro s log z h
  rw [Activity.bind] at h
  cases hx : x (s, log) with
  | none => simp [hx] at h
  | some ended =>
      obtain ⟨events, notes, does⟩ := first s log _ hx
      obtain ⟨result, elapsed, t⟩ := ended
      cases result with
      | error e =>
          simp only [hx] at h
          cases h
          exact ⟨events, notes, start, .failed does⟩
      | ok _ =>
          simp only [hx] at h
          cases hy : y t with
          | none => simp [hy] at h
          | some second =>
              simp only [hy] at h
              cases h
              obtain ⟨more, notes', a, turn⟩ := others t.1 t.2 _ hy
              refine ⟨events ++ more, ?_, a, .next does turn⟩
              rw [notes', show t.2 = _ from notes, List.append_assoc]

theorem next {x y : Activity (σ × List Event) Unit} {step : Step} {rest : List Step}
    (first : Does x step) (others : Does y (InTurn rest)) :
    Does (x.bind fun _ => y) (InTurn (step :: rest)) := by
  intro s log z h
  have more : Does y fun events verdict => ∃ _ : Unit, InTurn rest events verdict := by
    intro s log z h
    obtain ⟨events, notes, turn⟩ := others s log z h
    exact ⟨events, notes, (), turn⟩
  obtain ⟨events, notes, -, turn⟩ := cons () first more s log z h
  exact ⟨events, notes, turn⟩

theorem last {x : Activity (σ × List Event) Unit} {step : Step} (does : Does x step) :
    Does x (InTurn [step]) := by
  intro s log z h
  obtain ⟨events, notes, post⟩ := does s log z h
  refine ⟨events, notes, ?_⟩
  cases verdict : z.result with
  | error e => exact .failed (verdict ▸ post)
  | ok _ =>
      rw [← List.append_nil events]
      exact .next (verdict ▸ post) .done

open ComputeExceptions

theorem clientConfig_eq (s : σ) (log : List Event) :
    clientConfig c.observed (s, log) =
      match c.clusterConfig s with
      | (none, t) => some ⟨.error (.notStarted "cluster"), 0, t, log ++ [.clusterConfig none]⟩
      | (some config, t) =>
        some ⟨.ok (config.asClient (c.discoveryAddresses t).1), 0, (c.discoveryAddresses t).2,
          log ++ [.clusterConfig (some config)] ++
            [.discoveryAddresses (c.discoveryAddresses t).1]⟩ := by
  have looked : Activity.read c.observed.clusterConfig (s, log) = some
      ⟨.ok (c.clusterConfig s).1, 0, (c.clusterConfig s).2,
        log ++ [.clusterConfig (c.clusterConfig s).1]⟩ := rfl
  rw [clientConfig]
  show Activity.bind (Activity.read c.observed.clusterConfig) _ (s, log) = _
  rw [Activity.bind, looked]
  rcases c.clusterConfig s with ⟨_ | config, t⟩
  · rfl
  · rfl

theorem client {f : Config.Node → Activity (σ × List Event) Unit}
    {rest : Config.Node × List String → List Step} (start : Config.Node × List String)
    (others : ∀ a : Config.Node × List String, Does (f (a.1.asClient a.2)) (InTurn (rest a))) :
    Does ((clientConfig c.observed).bind f) fun events verdict =>
      ∃ a : Config.Node × List String,
        InTurn (Configured a.1 :: Addressed a.2 :: rest a) events verdict := by
  intro s log z h
  rw [Activity.bind, clientConfig_eq] at h
  generalize c.clusterConfig s = looked at h
  obtain ⟨_ | config, t⟩ := looked
  · cases h
    exact ⟨_, rfl, start, .failed (.inl ⟨rfl, rfl⟩)⟩
  · simp only at h
    cases hy : f (config.asClient (c.discoveryAddresses t).1) ((c.discoveryAddresses t).2,
        log ++ [.clusterConfig (some config)] ++
          [.discoveryAddresses (c.discoveryAddresses t).1]) with
    | none =>
        rw [hy] at h
        cases h
    | some y =>
        rw [hy] at h
        cases h
        obtain ⟨more, notes, turn⟩ := others (config, (c.discoveryAddresses t).1) _ _ _ hy
        refine ⟨_, ?_, (config, (c.discoveryAddresses t).1),
          .next (.inr ⟨rfl, rfl⟩) (.next ⟨rfl, rfl⟩ turn)⟩
        rw [notes, List.append_assoc, List.append_assoc]

theorem body (context : TestContext) (servers : 2 ≤ context.nodes) :
    Does (ComputeExceptions.body c.observed context (context.nodes - 1)) fun events verdict =>
      ∃ a : Config.Node × List String, InTurn (steps context a.1 a.2) events verdict := by
  have two : context.nodes - 1 + 2 = context.nodes + 1 := by omega
  have start := (nodeConfig context, ([] : List String))
  refine cons start (bounded fun _ => rfl) (cons start check (client start fun a => ?_))
  refine next (call fun _ => rfl) (next (bounded fun _ => rfl) (last ?_))
  rw [Checked, ← two]
  exact check

end Activity.Does

/-! ## What the protocol implies -/

def Event.isStart (e : Event) : Bool := e matches .startCluster ..

def Event.isStop (e : Event) : Bool := e matches .stopCluster ..

theorem Polled.all_polls {expected : Nat} {settings : Config.TopologyCheck} {elapsed : Nat}
    {events : List Event} {verdict : Except Error Unit}
    (h : Polled expected settings elapsed events verdict) :
    ∀ e ∈ events, ∃ reply, e = .topologyVersion reply := by
  induction h with
  | failed | seen | missed =>
      intro e member
      exact ⟨_, List.mem_singleton.mp member⟩
  | again ended low early rest ih =>
      intro e member
      rcases List.mem_cons.mp member with rfl | member
      · exact ⟨_, rfl⟩
      · exact ih e member

/-- A check that passes has seen the version that it expects. -/
theorem Polled.seen_of_ok {expected : Nat} {settings : Config.TopologyCheck} {elapsed : Nat}
    {events : List Event} (h : Polled expected settings elapsed events (.ok ())) :
    ∃ reply delay, .topologyVersion reply ∈ events ∧ reply.ended = some (.ok expected, delay) := by
  generalize passed : (Except.ok () : Except Error Unit) = verdict at h
  induction h with
  | failed | missed => cases passed
  | seen ended => exact ⟨_, _, List.mem_singleton.mpr rfl, ended⟩
  | again ended low early rest ih =>
      obtain ⟨reply, delay, member, observed⟩ := ih passed
      exact ⟨reply, delay, List.mem_cons_of_mem _ member, observed⟩

namespace InTurn

/-- What holds of the calls of every step holds of all calls. -/
theorem all {P : Event → Prop} {steps : List Step} {events : List Event} {verdict : Except Error Unit}
    (h : InTurn steps events verdict)
    (each : ∀ step ∈ steps, ∀ events verdict, step events verdict → ∀ e ∈ events, P e) :
    ∀ e ∈ events, P e := by
  induction h with
  | done => simp
  | failed h => exact each _ (by simp) _ _ h
  | next h others ih =>
      intro e member
      rcases List.mem_append.mp member with member | member
      · exact each _ (by simp) _ _ h e member
      · exact ih (fun step later => each step (List.mem_cons_of_mem _ later)) e member

theorem cons_of_ok {step : Step} {rest : List Step} {events : List Event}
    (h : InTurn (step :: rest) events (.ok ())) :
    ∃ first more, events = first ++ more ∧ step first (.ok ()) ∧ InTurn rest more (.ok ()) := by
  cases h with
  | next does others => exact ⟨_, _, rfl, does, others⟩

end InTurn

namespace ComputeExceptions

variable {context : TestContext} {config : Config.Node} {addresses : List String}
  {events : List Event} {verdict : Except Error Unit}

/-- None of the steps behind the first one starts servers or stops them. -/
theorem later_calls {step : Step} (member : step ∈ (steps context config addresses).tail)
    (h : step events verdict) : ∀ e ∈ events, e.isStart = false ∧ e.isStop = false := by
  intro e he
  simp only [steps, List.tail_cons, List.mem_cons, List.not_mem_nil, or_false] at member
  rcases member with rfl | rfl | rfl | rfl | rfl | rfl
  · obtain ⟨reply, rfl⟩ := h.all_polls e he
    exact ⟨rfl, rfl⟩
  · rcases h with ⟨rfl, -⟩ | ⟨rfl, -⟩ <;> cases List.mem_singleton.mp he <;> exact ⟨rfl, rfl⟩
  · obtain ⟨rfl, -⟩ := h
    cases List.mem_singleton.mp he
    exact ⟨rfl, rfl⟩
  · obtain ⟨reply, elapsed, rfl, -⟩ := h
    cases List.mem_singleton.mp he
    exact ⟨rfl, rfl⟩
  · obtain ⟨reply, rfl, -⟩ := h
    cases List.mem_singleton.mp he
    exact ⟨rfl, rfl⟩
  · obtain ⟨reply, rfl⟩ := h.all_polls e he
    exact ⟨rfl, rfl⟩

/-- The servers are started once, and no step stops them. -/
theorem start_once (h : InTurn (steps context config addresses) events verdict) :
    events.countP Event.isStart = 1 ∧ events.countP Event.isStop = 0 := by
  cases h with
  | failed does =>
      obtain ⟨reply, rfl, -⟩ := does
      exact ⟨rfl, rfl⟩
  | @next _ _ _ more _ does others =>
      obtain ⟨reply, rfl, -⟩ := does
      have later := others.all fun step member _ _ => later_calls member
      have started : more.countP Event.isStart = 0 :=
        List.countP_eq_zero.mpr fun e he => by simp [later e he]
      have stopped : more.countP Event.isStop = 0 :=
        List.countP_eq_zero.mpr fun e he => by simp [later e he]
      rw [List.countP_append, List.countP_append, started, stopped]
      exact ⟨rfl, rfl⟩

/-- When all steps succeed, both checks have seen what they expect, the first before the application is
started and the second after its end. -/
theorem observed_of_ok (h : InTurn (steps context config addresses) events (.ok ())) :
    ∃ before client entryPoint params started awaited after,
      events = before ++ .startApplication client entryPoint params started ::
        .awaitStopped awaited :: after ∧
      (∃ reply delay, .topologyVersion reply ∈ before ∧
        reply.ended = some (.ok (context.nodes - 1), delay)) ∧
      ∃ reply delay, .topologyVersion reply ∈ after ∧
        reply.ended = some (.ok (context.nodes + 1), delay) := by
  obtain ⟨e₁, _, rfl, -, h₁⟩ := h.cons_of_ok
  obtain ⟨e₂, _, rfl, first, h₂⟩ := h₁.cons_of_ok
  obtain ⟨e₃, _, rfl, -, h₃⟩ := h₂.cons_of_ok
  obtain ⟨e₄, _, rfl, -, h₄⟩ := h₃.cons_of_ok
  obtain ⟨_, _, rfl, ⟨started, _, rfl, -⟩, h₅⟩ := h₄.cons_of_ok
  obtain ⟨_, _, rfl, ⟨awaited, rfl, -⟩, h₆⟩ := h₅.cons_of_ok
  obtain ⟨e₇, rest, rfl, second, -⟩ := h₆.cons_of_ok
  obtain ⟨reply, delay, member, observed⟩ := first.seen_of_ok
  obtain ⟨reply', delay', member', observed'⟩ := second.seen_of_ok
  refine ⟨e₁ ++ (e₂ ++ (e₃ ++ e₄)),
    { config with clientMode := true, discovery := some { addresses } },
    "compute.ExceptionGenerationApplication", .object [], started, awaited, e₇ ++ rest, ?_,
    ⟨reply, delay, ?_, observed⟩, reply', delay', ?_, observed'⟩
  · simp only [List.append_assoc, List.singleton_append]
  · simp [member]
  · exact List.mem_append_left _ member'

end ComputeExceptions

/-! ## Activities that end -/

namespace Activity

/-- An activity ends, whatever state it begins in. -/
def Ends (x : Activity σ α) : Prop := ∀ s, ∃ y, x s = some y

theorem Ends.bind {x : Activity σ α} {f : α → Activity σ β} (first : x.Ends)
    (next : ∀ a, (f a).Ends) : (x.bind f).Ends := by
  intro s
  obtain ⟨⟨_ | a, elapsed, t⟩, hx⟩ := first s
  · rw [Activity.bind, hx]
    exact ⟨_, rfl⟩
  · obtain ⟨y, hy⟩ := next a t
    simp only [Activity.bind, hx, hy]
    exact ⟨_, rfl⟩

theorem Ends.andFinally {x y : Activity σ Unit} (first : x.Ends) (last : y.Ends) :
    (x.andFinally y).Ends := by
  intro s
  obtain ⟨a, ha⟩ := first s
  obtain ⟨b, hb⟩ := last a.state
  simp only [Activity.andFinally, ha, hb]
  exact ⟨_, rfl⟩

theorem Ends.bounded (operation : String) (limit : Nat) (c : σ → Course σ α) :
    (Activity.bounded operation limit c).Ends :=
  fun _ => ⟨_, rfl⟩

end Activity

namespace ComputeExceptions

variable {σ : Type} {c : Collaborators σ} {context : TestContext}

theorem checkTopology_ends (queries : ∀ s, ∃ x, (c.topologyVersion s).finish = some x)
    (interval : context.harness.topology.pollInterval ≠ 0) (expected : Nat) :
    (checkTopology c context expected).Ends := by
  intro s
  obtain ⟨x, polls⟩ : ∃ x, TopologyCheck.Polls c.topologyVersion c.pass expected
      context.harness.topology 0 s x :=
    TopologyCheck.exists_polls queries interval 0 s
  exact ⟨x, TopologyCheck.pollFrom_of_polls polls⟩

theorem clientConfig_ends : (clientConfig c).Ends := by
  unfold clientConfig
  refine .bind (fun s => ⟨_, rfl⟩) fun config => ?_
  cases config with
  | none => exact fun s => ⟨_, rfl⟩
  | some config => exact .bind (fun s => ⟨_, rfl⟩) fun _ s => ⟨_, rfl⟩

/-- A scenario ends when its queries end, the application can be started, and time passes between two
polls. A start, an application or a stop that never ends is given up. -/
theorem run_ends (queries : ∀ s, ∃ x, (c.topologyVersion s).finish = some x)
    (starts : ∀ config entryPoint params s,
      ∃ x, (c.startApplication config entryPoint params s).finish = some x)
    (interval : context.harness.topology.pollInterval ≠ 0) : (run c context).Ends := by
  rw [run]
  split
  · exact fun s => ⟨_, rfl⟩
  · have checks := checkTopology_ends queries interval
    refine .andFinally (.bind (.bounded _ _ _) fun _ => .bind (checks _) fun _ => .bind clientConfig_ends
      fun config => .bind ?_ fun _ => .bind (.bounded _ _ _) fun _ => checks _) (.bounded _ _ _)
    exact fun s => starts _ _ _ s

end ComputeExceptions

open ComputeExceptions in
/-- The protocol of the scenario with any collaborators. Noting down the calls and their replies changes
nothing. Without two nodes no call is made. Else the servers are started once, all steps are taken in
turn up to the first that fails, and then the servers are stopped, once; the first error of these is the
result, and without one both checks have seen the version that they expect. The scenario ends when every
query of the version and every start of the application does and time passes between two queries. -/
theorem scenario_protocol (c : Collaborators σ) (context : TestContext) (s : σ) :
    (run c.observed context (s, [])).map Finish.unnoted = run c context s ∧
    (context.nodes < 2 → run c.observed context (s, []) =
      some ⟨.error (.invalidContext (tooFewNodes context)), 0, s, []⟩) ∧
    (2 ≤ context.nodes → ∀ x, run c.observed context (s, []) = some x →
      ∃ config addresses events verdict stopped,
        InTurn (steps context config addresses) events verdict ∧
        x.state.2 = events ++ [.stopCluster stopped] ∧
        x.state.2.countP Event.isStart = 1 ∧ x.state.2.countP Event.isStop = 1 ∧
        x.result = verdict.bind (fun _ =>
          stopped.within "cluster stop" context.harness.cluster.shutdownTimeout.toNat) ∧
        (x.result = .ok () → ∃ before client entryPoint params started awaited after,
          events = before ++ .startApplication client entryPoint params started ::
            .awaitStopped awaited :: after ∧
          (∃ reply delay, .topologyVersion reply ∈ before ∧
            reply.ended = some (.ok (context.nodes - 1), delay)) ∧
          ∃ reply delay, .topologyVersion reply ∈ after ∧
            reply.ended = some (.ok (context.nodes + 1), delay))) ∧
    ((∀ s, ∃ x, (c.topologyVersion s).finish = some x) →
      (∀ config entryPoint params s,
        ∃ x, (c.startApplication config entryPoint params s).finish = some x) →
      context.harness.topology.pollInterval ≠ 0 → ∃ x, run c.observed context (s, []) = some x) := by
  have mirrors := run_observed c context s []
  refine ⟨mirrors, ?_, ?_, ?_⟩
  · intro few
    rw [run, if_pos few]
    rfl
  · intro enough x h
    rw [run, if_neg (Nat.not_lt.mpr enough), Activity.andFinally] at h
    cases first : body c.observed context (context.nodes - 1) (s, []) with
    | none => simp [first] at h
    | some y =>
        obtain ⟨events, notes, ⟨config, addresses⟩, turn⟩ :=
          Activity.Does.body context enough s [] y first
        simp only [first] at h
        cases last : stop c.observed context y.state with
        | none => simp [last] at h
        | some z =>
            simp only [last] at h
            cases h
            obtain ⟨_, notes', stopped, rfl, result⟩ :=
              Activity.Does.bounded (fun _ => rfl) y.state.1 y.state.2 z last
            have once := start_once turn
            have log : z.state.2 = events ++ [.stopCluster stopped] := by rw [notes', notes, List.nil_append]
            refine ⟨config, addresses, events, y.result, stopped, turn, log, ?_, ?_, ?_, ?_⟩
            · rw [log, List.countP_append, once.1]
              rfl
            · rw [log, List.countP_append, once.2]
              rfl
            · rw [← result]
              cases y.result <;> rfl
            · intro passed
              cases verdict : y.result with
              | error e => simp [verdict] at passed
              | ok _ => exact observed_of_ok (verdict ▸ turn)
  · intro queries starts interval
    obtain ⟨y, hy⟩ := run_ends queries starts interval s
    rw [hy] at mirrors
    obtain ⟨x, hx, -⟩ := Option.map_eq_some_iff.mp mirrors
    exact ⟨x, hx⟩

open ComputeExceptions in
/-- Servers that never come up and that fail to stop are stopped all the same. -/
theorem scenario_protocol_stuck :
    ∃ x, run (Script.collaborators { start.delay := 1000000, stop.failure := some (.notStarted "cluster") }).observed
        { name := "stuck", nodes := 3, version := .dev } (0, []) = some x ∧
      x.state.2.countP Event.isStart = 1 ∧ x.state.2.countP Event.isStop = 1 := by
  obtain ⟨-, -, protocol, ends⟩ := scenario_protocol
    (Script.collaborators { start.delay := 1000000, stop.failure := some (.notStarted "cluster") })
    { name := "stuck", nodes := 3, version := .dev } 0
  obtain ⟨x, hx⟩ := ends (fun s => ⟨_, rfl⟩) (fun _ _ _ s => ⟨_, rfl⟩) (by decide)
  obtain ⟨_, _, _, _, _, -, -, start, stop, -⟩ := protocol (by decide) x hx
  exact ⟨x, hx, start, stop⟩

/-- A harness that lets no time pass between two polls. -/
def restless : TestContext where
  name := "restless"
  nodes := 3
  version := .dev
  harness := { topology := { pollInterval := 0 } }

open ComputeExceptions in
/-- Calls that all end at once do not make the scenario end: its first check is still polling, and the
servers are never stopped. -/
theorem scenario_of_restless_never_ends :
    2 ≤ restless.nodes ∧ (∀ s, ((Script.collaborators {}).topologyVersion s).finish.isSome) ∧
      (∀ config nodes s, ((Script.collaborators {}).startCluster config nodes s).finish.isSome) ∧
      (∀ config entryPoint params s,
        ((Script.collaborators {}).startApplication config entryPoint params s).finish.isSome) ∧
      (∀ s, ((Script.collaborators {}).awaitStopped s).finish.isSome) ∧
      (∀ s, ((Script.collaborators {}).stopCluster s).finish.isSome) ∧
      ¬ ∃ x, run (Script.collaborators {}).observed restless (0, []) = some x := by
  have plain : run (Script.collaborators {}) restless 0 = none := by
    apply run_of_still (by decide) rfl rfl (by decide)
    intro queries
    exact ⟨0, queries + 1, rfl, by decide⟩
  have noted : (run (Script.collaborators {}).observed restless (0, [])).map Finish.unnoted = none :=
    (run_observed (Script.collaborators {}) restless 0 []).trans plain
  refine ⟨by decide, fun _ => rfl, fun _ _ _ => rfl, fun _ _ _ _ => rfl, fun _ => rfl, fun _ => rfl, ?_⟩
  rw [Option.map_eq_none_iff.mp noted]
  nofun

end ClusterHarness
