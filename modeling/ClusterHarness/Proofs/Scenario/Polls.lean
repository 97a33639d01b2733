import ClusterHarness.Scenario.TopologyCheck

/-! # How a topology check goes

The polls of a check one after another, and what they come to. A check ends just when there are such
polls, and there are as long as each query ends and time passes between two of them. Where no time passes
there need not be.
-/

namespace ClusterHarness.TopologyCheck

variable {σ : Type} {query : σ → Course σ Nat} {pass : Nat → σ → σ} {expected : Nat}
  {settings : Config.TopologyCheck}

/-- A check that has gone on for some time goes on from a state and ends. -/
inductive Polls (query : σ → Course σ Nat) (pass : Nat → σ → σ) (expected : Nat)
    (settings : Config.TopologyCheck) : Nat → σ → Finish σ Unit → Prop where
  | failed {elapsed s e delay t} (reply : (query s).finish = some ⟨.error e, delay, t⟩) :
      Polls query pass expected settings elapsed s ⟨.error e, elapsed + delay, t⟩
  | seen {elapsed s delay t} (reply : (query s).finish = some ⟨.ok expected, delay, t⟩) :
      Polls query pass expected settings elapsed s ⟨.ok (), elapsed + delay, t⟩
  | missed {elapsed s observed delay t}
      (reply : (query s).finish = some ⟨.ok observed, delay, t⟩) (other : observed ≠ expected)
      (spent : expected < observed ∨ settings.checkTimeout.toNat ≤ elapsed + delay) :
      Polls query pass expected settings elapsed s
        ⟨.error (.topologyMismatch expected observed), elapsed + delay, t⟩
  | again {elapsed s observed delay t x}
      (reply : (query s).finish = some ⟨.ok observed, delay, t⟩) (low : observed < expected)
      (early : elapsed + delay < settings.checkTimeout.toNat)
      (rest : Polls query pass expected settings
        (elapsed + delay + waitTime settings.pollInterval.toNat)
        (pass (waitTime settings.pollInterval.toNat) t) x) :
      Polls query pass expected settings elapsed s x

theorem polls_of_pollFrom {elapsed : Nat} {s : σ} {x : Finish σ Unit}
    (h : settings.pollFrom query pass expected elapsed s = some x) :
    Polls query pass expected settings elapsed s x := by
  refine Config.TopologyCheck.pollFrom.partial_correctness settings query pass expected
    (Polls query pass expected settings) ?_ elapsed s x h
  intro more ih elapsed s x h
  split at h
  · cases h
  · rename_i reply
    cases h
    exact .failed reply
  · rename_i observed delay t reply
    by_cases same : observed = expected
    · subst same
      rw [if_pos rfl] at h
      cases h
      exact .seen reply
    · rw [if_neg same] at h
      by_cases spent : expected < observed ∨ settings.checkTimeout.toNat ≤ elapsed + delay
      · rw [if_pos (by simpa using spent)] at h
        cases h
        exact .missed reply same spent
      · rw [if_neg (by simpa using spent)] at h
        exact .again reply (by omega) (by omega) (ih _ _ _ h)

theorem pollFrom_of_polls {elapsed : Nat} {s : σ} {x : Finish σ Unit}
    (h : Polls query pass expected settings elapsed s x) :
    settings.pollFrom query pass expected elapsed s = some x := by
  induction h with
  | failed reply =>
      rw [Config.TopologyCheck.pollFrom, reply]
  | seen reply =>
      rw [Config.TopologyCheck.pollFrom, reply]
      simp
  | missed reply other spent =>
      rw [Config.TopologyCheck.pollFrom, reply]
      simp [other, spent]
  | again reply low early rest ih =>
      rw [Config.TopologyCheck.pollFrom, reply]
      have other := Nat.ne_of_lt low
      have inTime : ¬ (expected < _ ∨ settings.checkTimeout.toNat ≤ _) :=
        fun spent => spent.elim (Nat.lt_asymm low) (Nat.not_le.mpr early)
      simp only [if_neg other, Bool.or_eq_true, decide_eq_true_eq, if_neg inTime]
      exact ih

theorem pollFrom_eq_some_iff {elapsed : Nat} {s : σ} {x : Finish σ Unit} :
    settings.pollFrom query pass expected elapsed s = some x ↔
      Polls query pass expected settings elapsed s x :=
  ⟨polls_of_pollFrom, pollFrom_of_polls⟩

theorem waitTime_pos {asked : Nat} (h : 0 < asked) : 0 < waitTime asked :=
  Nat.lt_min.mpr ⟨h, by decide⟩

/-- A check ends if every query does and time passes between two of them. -/
theorem exists_polls (ends : ∀ s, ∃ x, (query s).finish = some x)
    (interval : settings.pollInterval ≠ 0) (elapsed : Nat) (s : σ) :
    ∃ x, Polls query pass expected settings elapsed s x := by
  have positive : 0 < waitTime settings.pollInterval.toNat :=
    waitTime_pos (Nat.pos_of_ne_zero fun zero => interval (UInt64.toNat_inj.mp zero))
  -- The time that is left gets less with every poll.
  generalize left : settings.checkTimeout.toNat - elapsed = n
  induction n using Nat.strongRecOn generalizing elapsed s with
  | ind n ih =>
      obtain ⟨⟨_ | observed, delay, t⟩, reply⟩ := ends s
      · exact ⟨_, .failed reply⟩
      · by_cases same : observed = expected
        · subst same
          exact ⟨_, .seen reply⟩
        · by_cases spent : expected < observed ∨ settings.checkTimeout.toNat ≤ elapsed + delay
          · exact ⟨_, .missed reply same spent⟩
          · obtain ⟨x, rest⟩ := ih _ (by omega) (elapsed + delay + waitTime settings.pollInterval.toNat)
              (pass (waitTime settings.pollInterval.toNat) t) rfl
            exact ⟨x, .again reply (by omega) (by omega) rest⟩

/-- A check does not end while its polls come at once and show too little, and no time passes between two
of them. -/
theorem not_polls_of_still (still : settings.pollInterval = 0)
    (low : ∀ s, ∃ observed t, (query s).finish = some ⟨.ok observed, 0, t⟩ ∧ observed < expected)
    {elapsed : Nat} (early : elapsed < settings.checkTimeout.toNat) {s : σ} {x : Finish σ Unit} :
    ¬ Polls query pass expected settings elapsed s x := by
  have pause : waitTime settings.pollInterval.toNat = 0 := by
    rw [still]
    rfl
  have answered {s : σ} {y : Finish σ Nat} (found : (query s).finish = some y) :
      ∃ observed t, y = ⟨.ok observed, 0, t⟩ ∧ observed < expected := by
    obtain ⟨observed, t, same, less⟩ := low s
    cases found.symm.trans same
    exact ⟨observed, t, rfl, less⟩
  intro polls
  induction polls with
  | failed reply =>
      obtain ⟨observed, t, ⟨⟩, -⟩ := answered reply
  | seen reply | missed reply =>
      obtain ⟨observed, t, ⟨⟩, less⟩ := answered reply
      omega
  | again reply smaller inTime rest ih =>
      obtain ⟨observed, t, ⟨⟩, less⟩ := answered reply
      exact ih (by omega)

end ClusterHarness.TopologyCheck
