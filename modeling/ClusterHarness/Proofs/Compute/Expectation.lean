import ClusterHarness.Compute.Expectation
import ClusterHarness.Proofs.Text.Split

/-! # Expected exceptions

The check of an answer against an expected exception has six conditions in a fixed order. It succeeds
just when all of them hold, and otherwise tells of the first that does not. Only the exception below the
wrappers is looked at, but what is told of another failure is the text of the outermost one.
-/

namespace ClusterHarness.Compute

/-! ## Below the wrappers -/

namespace Failure

/-- Wrappers are looked through when they carry the marker and are not too many. -/
theorem strip_eq_user_iff {failure : Failure} {depth : Nat} {e : UserException} :
    failure.strip depth = .user e ↔ ∃ texts : List String, texts.length ≤ depth ∧
      (∀ text ∈ texts, marker.toList <:+: text.toList) ∧
      failure = texts.foldr remoteJob (.user e) := by
  constructor
  · intro h
    fun_induction strip depth failure with
    | case1 depth message cause marked ih =>
        obtain ⟨texts, few, all, rfl⟩ := ih h
        refine ⟨message :: texts, Nat.succ_le_succ few, ?_, rfl⟩
        intro text there
        rcases List.mem_cons.mp there with rfl | there
        · exact Text.contains_iff_isInfix.mp marked
        · exact all text there
    | case2 depth message cause plain => cases h
    | case3 depth failure other =>
        subst h
        exact ⟨[], Nat.zero_le _, by simp, rfl⟩
  · rintro ⟨texts, few, all, rfl⟩
    induction texts generalizing depth with
    | nil =>
        rw [List.foldr_nil]
        cases depth <;> rfl
    | cons text texts ih =>
        obtain ⟨rest, rfl⟩ := Nat.exists_eq_add_of_le' (Nat.le_trans (Nat.le_add_left 1 _) few)
        have marked := Text.contains_iff_isInfix.mpr (all text (by simp))
        rw [List.foldr_cons, strip, if_pos marked]
        exact ih (Nat.le_of_succ_le_succ few) fun other there => all other (by simp [there])

/-- Whether a failure comes from an exception that passes for one of a kind. -/
def Surfaces (failure : Failure) (kind : ExceptionKind) (e : UserException) : Prop :=
  failure.cause = .user e ∧ (kind = .externalizable → e.kind = .externalizable)

theorem exceptionOf?_eq_some_iff {failure : Failure} {kind : ExceptionKind} {e : UserException} :
    failure.exceptionOf? kind = some e ↔ failure.Surfaces kind e := by
  have passes (actual : ExceptionKind) : actual.isInstanceOf kind = true ↔
      (kind = .externalizable → actual = .externalizable) := by
    cases kind <;> cases actual <;> decide
  unfold exceptionOf? Surfaces
  cases failure.cause with
  | user actual =>
      by_cases kind : actual.kind.isInstanceOf kind = true
      · simp only [kind, if_true, Option.some.injEq, user.injEq]
        constructor
        · rintro rfl
          exact ⟨rfl, (passes _).mp kind⟩
        · exact And.left
      · simp only [kind, user.injEq]
        constructor
        · nofun
        · rintro ⟨rfl, passing⟩
          exact absurd ((passes _).mpr passing) kind
  | _ => simp

end Failure

/-! ## The conditions on an exception -/

/-- Details have to be there, and contain the expected ones, only if some are expected. -/
theorem detailsContain_iff {actual expected : Option String} :
    detailsContain actual expected = true ↔
      ∀ part ∈ expected, ∃ details ∈ actual, part.toList <:+: details.toList := by
  cases expected with
  | none => simp [detailsContain]
  | some part =>
      cases actual with
      | none => simp [detailsContain]
      | some details => simp [detailsContain, Text.contains_iff_isInfix]

theorem UserException.meets_iff {actual expected : UserException} :
    actual.meets expected = .ok () ↔
      Text.contains actual.message expected.message = true ∧ actual.code = expected.code ∧
        detailsContain actual.details expected.details = true ∧ actual.stackTrace ≠ [] := by
  unfold UserException.meets
  by_cases message : Text.contains actual.message expected.message = true
  · by_cases code : actual.code = expected.code
    · by_cases details : detailsContain actual.details expected.details = true
      · by_cases trace : actual.stackTrace = []
        · simp [message, code, details, trace]
        · simp [message, code, details, trace]
      · simp [message, code, details]
    · simp [message, code]
  · simp [message]

/-- What an answer is told that is checked against an expected exception. -/
inductive Verdict (expected : UserException) : Answer → Except Mismatch Unit → Prop where
  | notThrown (v : Json) : Verdict expected (.ok v) (.error .notThrown)
  | unexpected {failure : Failure} (other : ∀ e, ¬ failure.Surfaces expected.kind e) :
      Verdict expected (.error failure) (.error (.unexpected failure.message))
  | message {failure : Failure} {e : UserException} (surfaces : failure.Surfaces expected.kind e)
      (message : ¬ expected.message.toList <:+: e.message.toList) :
      Verdict expected (.error failure) (.error .message)
  | code {failure : Failure} {e : UserException} (surfaces : failure.Surfaces expected.kind e)
      (message : expected.message.toList <:+: e.message.toList) (code : e.code ≠ expected.code) :
      Verdict expected (.error failure) (.error .code)
  | details {failure : Failure} {e : UserException} (surfaces : failure.Surfaces expected.kind e)
      (message : expected.message.toList <:+: e.message.toList) (code : e.code = expected.code)
      (details : ¬ ∀ part ∈ expected.details, ∃ there ∈ e.details, part.toList <:+: there.toList) :
      Verdict expected (.error failure) (.error .details)
  | noStackTrace {failure : Failure} {e : UserException}
      (surfaces : failure.Surfaces expected.kind e)
      (message : expected.message.toList <:+: e.message.toList) (code : e.code = expected.code)
      (details : ∀ part ∈ expected.details, ∃ there ∈ e.details, part.toList <:+: there.toList)
      (trace : e.stackTrace = []) : Verdict expected (.error failure) (.error .noStackTrace)
  | met {failure : Failure} {e : UserException} (surfaces : failure.Surfaces expected.kind e)
      (message : expected.message.toList <:+: e.message.toList) (code : e.code = expected.code)
      (details : ∀ part ∈ expected.details, ∃ there ∈ e.details, part.toList <:+: there.toList)
      (trace : e.stackTrace ≠ []) : Verdict expected (.error failure) (.ok ())

variable {answer : Answer} {failure : Failure} {e expected : UserException}
  {verdict : Except Mismatch Unit}

theorem assertThrows_of_surfaces (surfaces : failure.Surfaces expected.kind e) :
    assertThrows (.error failure) expected = e.meets expected := by
  simp only [assertThrows, Failure.exceptionOf?_eq_some_iff.mpr surfaces]

theorem assertThrows_of_other (other : ∀ e, ¬ failure.Surfaces expected.kind e) :
    assertThrows (.error failure) expected = .error (.unexpected failure.message) := by
  have none : failure.exceptionOf? expected.kind = none := by
    rw [Option.eq_none_iff_forall_ne_some]
    exact fun e found => other e (Failure.exceptionOf?_eq_some_iff.mp found)
  simp only [assertThrows, none]

theorem Verdict.eq (h : Verdict expected answer verdict) : assertThrows answer expected = verdict := by
  cases h with
  | notThrown v => rfl
  | unexpected other => exact assertThrows_of_other other
  | message surfaces message =>
      rw [← Text.contains_iff_isInfix] at message
      simp [assertThrows_of_surfaces surfaces, UserException.meets, message]
  | code surfaces message code =>
      rw [← Text.contains_iff_isInfix] at message
      simp [assertThrows_of_surfaces surfaces, UserException.meets, message, code]
  | details surfaces message code details =>
      rw [← Text.contains_iff_isInfix] at message
      rw [← detailsContain_iff] at details
      simp [assertThrows_of_surfaces surfaces, UserException.meets, message, code, details]
  | noStackTrace surfaces message code details trace =>
      rw [← Text.contains_iff_isInfix] at message
      rw [← detailsContain_iff] at details
      simp [assertThrows_of_surfaces surfaces, UserException.meets, message, code, details, trace]
  | met surfaces message code details trace =>
      rw [← Text.contains_iff_isInfix] at message
      rw [← detailsContain_iff] at details
      simp [assertThrows_of_surfaces surfaces, UserException.meets, message, code, details, trace]

theorem Verdict.exists (answer : Answer) (expected : UserException) :
    ∃ verdict, Verdict expected answer verdict := by
  cases answer with
  | ok v => exact ⟨_, .notThrown v⟩
  | error failure =>
      by_cases surfaces : ∃ e, failure.Surfaces expected.kind e
      · obtain ⟨e, surfaces⟩ := surfaces
        by_cases message : expected.message.toList <:+: e.message.toList
        · by_cases code : e.code = expected.code
          · by_cases details :
                ∀ part ∈ expected.details, ∃ there ∈ e.details, part.toList <:+: there.toList
            · by_cases trace : e.stackTrace = []
              · exact ⟨_, .noStackTrace surfaces message code details trace⟩
              · exact ⟨_, .met surfaces message code details trace⟩
            · exact ⟨_, .details surfaces message code details⟩
          · exact ⟨_, .code surfaces message code⟩
        · exact ⟨_, .message surfaces message⟩
      · exact ⟨_, .unexpected (not_exists.mp surfaces)⟩

/-- One verdict is given on every answer, and the check gives it. -/
theorem assertThrows_eq_iff :
    assertThrows answer expected = verdict ↔ Verdict expected answer verdict := by
  constructor
  · rintro rfl
    obtain ⟨verdict, given⟩ := Verdict.exists answer expected
    exact given.eq.symm ▸ given
  · exact Verdict.eq

theorem assertThrows_eq_ok_iff : assertThrows answer expected = .ok () ↔
    ∃ failure e, answer = .error failure ∧ failure.Surfaces expected.kind e ∧
      expected.message.toList <:+: e.message.toList ∧ e.code = expected.code ∧
      (∀ part ∈ expected.details, ∃ there ∈ e.details, part.toList <:+: there.toList) ∧
      e.stackTrace ≠ [] := by
  rw [assertThrows_eq_iff]
  constructor
  · rintro ⟨⟩
    exact ⟨_, _, rfl, ‹_›, ‹_›, ‹_›, ‹_›, ‹_›⟩
  · rintro ⟨failure, e, rfl, surfaces, message, code, details, trace⟩
    exact .met surfaces message code details trace

/-- Every answer is told of the first of the six conditions that it does not satisfy, if there is one.
An expectation of the refined kind is met by fewer answers than the same one of the general kind. -/
theorem first_unmet_condition_counts :
    (∀ answer expected verdict,
      assertThrows answer expected = verdict ↔ Verdict expected answer verdict) ∧
    (∀ answer expected, assertThrows answer expected = .ok () ↔
      ∃ failure e, answer = .error failure ∧ failure.Surfaces expected.kind e ∧
        expected.message.toList <:+: e.message.toList ∧ e.code = expected.code ∧
        (∀ part ∈ expected.details, ∃ there ∈ e.details, part.toList <:+: there.toList) ∧
        e.stackTrace ≠ []) ∧
    (∀ (failure : Failure) e, failure.cause = .user e ↔ ∃ texts : List String, texts.length ≤ 10 ∧
      (∀ text ∈ texts, Failure.marker.toList <:+: text.toList) ∧
      failure = texts.foldr .remoteJob (.user e)) ∧
    ∀ expected : UserException,
      (∀ answer, assertThrows answer { expected with kind := .externalizable } = .ok () →
        assertThrows answer { expected with kind := .serializable } = .ok ()) ∧
      ∃ answer, assertThrows answer { expected with kind := .serializable } = .ok () ∧
        assertThrows answer { expected with kind := .externalizable } ≠ .ok () := by
  refine ⟨fun _ _ _ => assertThrows_eq_iff, fun _ _ => assertThrows_eq_ok_iff,
    fun _ _ => Failure.strip_eq_user_iff, fun expected => ?_⟩
  constructor
  · intro answer accepted
    obtain ⟨failure, e, shown, ⟨cause, -⟩, rest⟩ := assertThrows_eq_ok_iff.mp accepted
    exact assertThrows_eq_ok_iff.mpr ⟨failure, e, shown, ⟨cause, nofun⟩, rest⟩
  · let e : UserException := { expected with kind := .serializable, stackTrace := ["run"] }
    refine ⟨.error (.user e), ?_, ?_⟩
    · have details : ∀ part ∈ e.details, ∃ there ∈ e.details, part.toList <:+: there.toList :=
        fun part there => ⟨part, there, List.infix_refl _⟩
      exact assertThrows_eq_ok_iff.mpr
        ⟨.user e, e, rfl, ⟨rfl, nofun⟩, List.infix_refl _, rfl, details, nofun⟩
    · intro accepted
      obtain ⟨failure, thrown, shown, ⟨cause, refined⟩, -⟩ := assertThrows_eq_ok_iff.mp accepted
      cases shown
      cases cause
      cases refined rfl

theorem first_unmet_condition_counts_wrapped :
    let e : UserException := ⟨.externalizable, "Disk is full", -7, some "disk 1", ["run"]⟩
    let answer : Answer := .error (.remoteJob ("1: " ++ Failure.marker) (.user e))
    let expected : UserException := ⟨.externalizable, "full", -7, none, []⟩
    assertThrows answer expected = .ok () ∧
      assertThrows answer { expected with kind := .serializable } = .ok () := by
  intro e answer expected
  have accepted : assertThrows answer expected = .ok () := by decide +kernel
  exact ⟨accepted, (first_unmet_condition_counts.2.2.2 expected).1 answer accepted⟩

end ClusterHarness.Compute
