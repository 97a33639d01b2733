import ClusterHarness.Proofs.Scenario.Duration
import Mathlib.Order.Bounds.Basic
import Mathlib.Order.Nat

/-! # With which poll a check ends

When replies come at once, only the pauses between two polls take time. The polls then begin at fixed
times, and the replies tell with which of them the check ends and what it ends with: the first reply
that leaves nothing to wait for, or the first poll for which the time is up.
-/

namespace ClusterHarness.TopologyCheck

/-- The time between two polls. -/
def pause (settings : Config.TopologyCheck) : Nat := waitTime settings.pollInterval.toNat

/-- Whether the time is up at a poll. Polls are counted from zero on. -/
def IsLate (settings : Config.TopologyCheck) (poll : Nat) : Prop :=
  settings.checkTimeout.toNat ≤ poll * pause settings

instance (settings : Config.TopologyCheck) : DecidablePred (IsLate settings) :=
  fun poll => inferInstanceAs (Decidable (settings.checkTimeout.toNat ≤ poll * pause settings))

/-- Whether there is nothing to wait for after a reply. -/
def Decides (expected : Nat) : Except Error Nat → Prop
  | .error _ => True
  | .ok observed => expected ≤ observed

instance (expected : Nat) : DecidablePred (Decides expected)
  | .error _ => inferInstanceAs (Decidable True)
  | .ok observed => inferInstanceAs (Decidable (expected ≤ observed))

/-- Whether a check that has come to a poll ends with it. -/
def Ends (expected : Nat) (settings : Config.TopologyCheck) (replies : Nat → Except Error Nat)
    (poll : Nat) : Prop :=
  Decides expected (replies poll) ∨ IsLate settings poll

instance (expected : Nat) (settings : Config.TopologyCheck) (replies : Nat → Except Error Nat) :
    DecidablePred (Ends expected settings replies) :=
  fun poll => inferInstanceAs (Decidable (Decides expected (replies poll) ∨ IsLate settings poll))

/-- What a check ends with, if a reply is the last one. -/
def verdict (expected : Nat) : Except Error Nat → Except Error Unit
  | .error e => .error e
  | .ok observed => if observed = expected then .ok () else .error (.topologyMismatch expected observed)

/-- Replies that come at once, each at its poll. The state is the number of polls so far. -/
def answering (replies : Nat → Except Error Nat) (polls : Nat) : Course Nat Nat :=
  .now (replies polls) (polls + 1)

variable {σ : Type} {query : σ → Course σ Nat} {pass : Nat → σ → σ} {expected : Nat}
  {settings : Config.TopologyCheck} {replies : Nat → Except Error Nat} {poll last latest : Nat}

theorem pause_pos (interval : settings.pollInterval ≠ 0) : 0 < pause settings :=
  waitTime_pos (Nat.pos_of_ne_zero fun zero => interval (UInt64.toNat_inj.mp zero))

theorem exists_isLate (interval : settings.pollInterval ≠ 0) : ∃ poll, IsLate settings poll :=
  ⟨settings.checkTimeout.toNat, Nat.le_mul_of_pos_right _ (pause_pos interval)⟩

/-- The last poll begins less than one pause after the time is up. -/
theorem elapsed_lt (interval : settings.pollInterval ≠ 0)
    (last : IsLeast {k | Ends expected settings replies k} poll) :
    poll * pause settings < settings.checkTimeout.toNat + pause settings := by
  have positive := pause_pos interval
  cases poll with
  | zero => omega
  | succ k =>
      have early : ¬ IsLate settings k := fun late => Nat.not_succ_le_self k (last.2 (.inr late))
      have before : k * pause settings < settings.checkTimeout.toNat := Nat.lt_of_not_le early
      rw [Nat.succ_mul]
      omega

/-- A check ends with the first poll that decides, and with the first late one at the latest. -/
theorem isLeast_upTo (latest_ : IsLeast {k | IsLate settings k} latest)
    (last_ : IsLeast {k | Ends expected settings replies k} last) :
    IsLeast {k | k ≤ latest ∧ (Decides expected (replies k) ∨ k = latest)} last := by
  have inTime : last ≤ latest := last_.2 (.inr latest_.1)
  refine ⟨⟨inTime, ?_⟩, ?_⟩
  · rcases last_.1 with decides | late
    · exact .inl decides
    · exact .inr (Nat.le_antisymm inTime (latest_.2 late))
  · rintro k ⟨-, decides | rfl⟩
    · exact last_.2 (.inl decides)
    · exact inTime

/-! ## Prompt replies -/

/-- The states in which a check polls as long as it goes on, and those that each poll leaves, when every
reply comes at once. -/
structure Prompt (query : σ → Course σ Nat) (pass : Nat → σ → σ) (settings : Config.TopologyCheck)
    (replies : Nat → Except Error Nat) (asked left : Nat → σ) : Prop where
  reply : ∀ k, (query (asked k)).finish = some ⟨replies k, 0, left k⟩
  next : ∀ k, asked (k + 1) = pass (pause settings) (left k)

theorem Prompt.answering (settings : Config.TopologyCheck) (replies : Nat → Except Error Nat) :
    Prompt (answering replies) (fun _ polls => polls) settings replies id (· + 1) where
  reply _ := rfl
  next _ := rfl

namespace Prompt

variable {asked left : Nat → σ} (prompt : Prompt query pass settings replies asked left)
  (ends : IsLeast {k | Ends expected settings replies k} last)

include prompt ends

theorem polls (le : poll ≤ last) :
    Polls query pass expected settings (poll * pause settings) (asked poll)
      ⟨verdict expected (replies last), last * pause settings, left last⟩ := by
  -- From the last poll back to the one at which the check stands.
  induction le using Nat.decreasingInduction with
  | self =>
      have reply := prompt.reply last
      have reason : Decides expected (replies last) ∨ IsLate settings last := ends.1
      cases answer : replies last with
      | error e =>
          rw [answer] at reply
          exact .failed reply
      | ok observed =>
          rw [answer] at reply reason
          by_cases same : observed = expected
          · subst same
            rw [verdict, if_pos rfl]
            exact .seen reply
          · rw [verdict, if_neg same]
            refine .missed reply same ?_
            rcases reason with high | late
            · exact .inl (Nat.lt_of_le_of_ne high (Ne.symm same))
            · exact .inr late
  | of_succ k less ih =>
      have reply := prompt.reply k
      have goesOn : ¬ (Decides expected (replies k) ∨ IsLate settings k) :=
        fun ended => Nat.not_lt.mpr (ends.2 ended) less
      cases answer : replies k with
      | error e =>
          rw [answer] at goesOn
          exact absurd (.inl trivial) goesOn
      | ok observed =>
          rw [answer] at reply goesOn
          obtain ⟨low, early⟩ := not_or.mp goesOn
          refine .again reply (Nat.lt_of_not_le low) (Nat.lt_of_not_le early) ?_
          rw [Nat.succ_mul, prompt.next k] at ih
          exact ih

/-- A check ends with the first poll that is its last one. -/
theorem run_eq : run query pass expected settings (asked 0) =
    some ⟨verdict expected (replies last), last * pause settings, left last⟩ := by
  have polls := prompt.polls ends (Nat.zero_le last)
  rw [Nat.zero_mul] at polls
  exact pollFrom_of_polls polls

end Prompt

theorem run_answering (ends : IsLeast {k | Ends expected settings replies k} last) :
    run (answering replies) (fun _ polls => polls) expected settings 0 =
      some ⟨verdict expected (replies last), last * pause settings, last + 1⟩ :=
  (Prompt.answering settings replies).run_eq ends

theorem exists_last (interval : settings.pollInterval ≠ 0) (expected : Nat)
    (replies : Nat → Except Error Nat) : ∃ last, IsLeast {k | Ends expected settings replies k} last := by
  obtain ⟨poll, late⟩ := exists_isLate interval
  exact ⟨_, Nat.isLeast_find ⟨poll, .inr late⟩⟩

/-- With replies that come at once a check ends with the first poll that decides, and with the first late
one at the latest. The time that it has taken is that of the pauses, and the last reply is the verdict.
With settings that are accepted there always is such a poll, and none that finds too low a version ends
the check before there was a second one. -/
theorem ends_with_first_deciding_poll (expected : Nat) (replies : Nat → Except Error Nat) :
    (∀ settings : Config.TopologyCheck, settings.pollInterval ≠ 0 →
      ∃ latest last, IsLeast {k | IsLate settings k} latest ∧
        IsLeast {k | k ≤ latest ∧ (Decides expected (replies k) ∨ k = latest)} last ∧
        run (answering replies) (fun _ polls => polls) expected settings 0 =
          some ⟨verdict expected (replies last), last * pause settings, last + 1⟩ ∧
        last * pause settings < settings.checkTimeout.toNat + settings.pollInterval.toNat) ∧
    ∀ harness : Config.Harness, harness.validate = .ok () →
      ∃ last,
        run (answering replies) (fun _ polls => polls) expected harness.topology 0 =
          some ⟨verdict expected (replies last), last * pause harness.topology, last + 1⟩ ∧
        ∀ observed, replies last = .ok observed → observed < expected → 2 ≤ last + 1 := by
  constructor
  · intro settings interval
    obtain ⟨last, ends⟩ := exists_last interval expected replies
    obtain ⟨poll, late⟩ := exists_isLate interval
    have latest := Nat.isLeast_find ⟨poll, late⟩
    have cut : pause settings ≤ settings.pollInterval.toNat := waitTime_le _
    have time := elapsed_lt interval ends
    exact ⟨_, last, latest, isLeast_upTo latest ends, run_answering ends, by omega⟩
  · intro harness valid
    have sound := Config.Harness.validate_iff.mp valid
    obtain ⟨last, ends⟩ := exists_last sound.pollInterval expected replies
    refine ⟨last, run_answering ends, ?_⟩
    intro observed answer low
    cases last with
    | succ last => omega
    | zero =>
        rcases ends.1 with decides | late
        · rw [answer] at decides
          exact absurd decides (Nat.not_le.mpr low)
        · rw [IsLate, Nat.zero_mul, Nat.le_zero_eq] at late
          exact absurd (UInt64.toNat_inj.mp late) sound.checkTimeout

theorem late_after_three_pauses : IsLeast {k | IsLate ⟨25, 10⟩ k} 3 := by
  have late : IsLate ⟨25, 10⟩ 3 := by decide
  refine ⟨late, fun k late => ?_⟩
  have time : 25 ≤ k * 10 := late
  omega

/-- Polls every ten milliseconds of a version that stays too low, for twenty-five milliseconds. -/
theorem ends_with_first_deciding_poll_too_low :
    run (answering fun _ => .ok 1) (fun _ polls => polls) 2 ⟨25, 10⟩ 0 =
        some ⟨.error (.topologyMismatch 2 1), 30, 4⟩ ∧
      ∃ last, run (answering fun _ => .ok 1) (fun _ polls => polls) 2 Config.Harness.default.topology 0 =
          some ⟨.error (.topologyMismatch 2 1), last * 100, last + 1⟩ ∧ 2 ≤ last + 1 := by
  obtain ⟨decided, ended⟩ := ends_with_first_deciding_poll 2 fun _ => .ok 1
  constructor
  · obtain ⟨latest, last, lateness, ends, same, -⟩ := decided ⟨25, 10⟩ (by decide)
    obtain rfl := lateness.unique late_after_three_pauses
    obtain ⟨-, decides | rfl⟩ := ends.1
    · exact absurd decides (by decide)
    · exact same
  · obtain ⟨last, same, polls⟩ := ended .default rfl
    exact ⟨last, same, polls 1 rfl (by decide)⟩

/-- The time between two polls is not always what was asked for, as no wait takes longer than the longest
one. -/
theorem pauses_are_cut_short :
    ¬ ∀ (expected : Nat) (replies : Nat → Except Error Nat) (settings : Config.TopologyCheck),
      settings.pollInterval ≠ 0 →
      ∃ latest last,
        IsLeast {k | settings.checkTimeout.toNat ≤ k * settings.pollInterval.toNat} latest ∧
        IsLeast {k | k ≤ latest ∧ (Decides expected (replies k) ∨ k = latest)} last ∧
        run (answering replies) (fun _ polls => polls) expected settings 0 =
          some ⟨verdict expected (replies last), last * settings.pollInterval.toNat, last + 1⟩ := by
  intro claim
  obtain ⟨latest, last, -, -, same⟩ := claim 5 (fun k => .ok (k + 1)) ⟨10, 1000000000000000⟩ (by decide)
  have first : ¬ Ends 5 ⟨10, 1000000000000000⟩ (fun k => .ok (k + 1)) 0 := by decide
  have second : Ends 5 ⟨10, 1000000000000000⟩ (fun k => .ok (k + 1)) 1 := by decide
  have least : IsLeast {k | Ends 5 ⟨10, 1000000000000000⟩ (fun k => .ok (k + 1)) k} 1 := by
    refine ⟨second, fun k ends => Nat.pos_of_ne_zero ?_⟩
    rintro rfl
    exact first ends
  rw [run_answering least] at same
  have elapsed : 946080000000 = last * 1000000000000000 :=
    congrArg Finish.elapsed (Option.some.inj same)
  omega

end ClusterHarness.TopologyCheck
