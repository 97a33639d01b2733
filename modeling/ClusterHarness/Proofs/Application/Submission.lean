import ClusterHarness.Application.ExceptionGeneration
import Mathlib.Data.List.Forall2

/-! # What the application submits

The jobs of the trials are submitted in their order, up to the first whose answer does not show the
exception that was asked for. A compute may answer anything, and each answer may depend on all jobs that
it was asked to execute before.
-/

namespace ClusterHarness.ExceptionGeneration

open Compute

variable {σ : Type}

/-- What a compute answers to jobs that are submitted one after the other. -/
def answers (compute : σ → Job → Answer × σ) : σ → List Job → List Answer
  | _, [] => []
  | s, job :: rest => (compute s job).1 :: answers compute (compute s job).2 rest

/-- A compute that keeps a record of the jobs submitted to it, with its answers. -/
def recorded (compute : σ → Job → Answer × σ) (s : σ × List (Job × Answer)) (job : Job) :
    Answer × σ × List (Job × Answer) :=
  let (answer, t) := compute s.1 job
  (answer, t, s.2 ++ [(job, answer)])

/-- The answer shows the exception that the trial asks for. -/
def Trial.Accepts (t : Trial) (answer : Answer) : Prop := assertThrows answer t.expected = .ok ()

/-- How trials go when they get some answers: the jobs that are submitted, each with its answer, and the
verdict. -/
inductive Tried : List Trial → List Answer → List (Job × Answer) → Except Error Unit → Prop where
  | done : Tried [] [] [] (.ok ())
  | accepted {t rest answer more record verdict} (accepts : t.Accepts answer)
      (others : Tried rest more record verdict) :
      Tried (t :: rest) (answer :: more) ((t.toJob, answer) :: record) verdict
  | rejected {t rest answer more mismatch}
      (rejects : assertThrows answer t.expected = .error mismatch) :
      Tried (t :: rest) (answer :: more) [(t.toJob, answer)]
        (.error (.assertion (t.label ++ ": " ++ mismatch.text)))

/-- Keeping a record changes nothing, and what is recorded is how the trials went. -/
theorem attempt_recorded (compute : σ → Job → Answer × σ) (trials : List Trial) (s : σ)
    (before : List (Job × Answer)) :
    ∃ record verdict last, attempt compute s trials = (verdict, last) ∧
      attempt (recorded compute) (s, before) trials = (verdict, last, before ++ record) ∧
      Tried trials (answers compute s (trials.map Trial.toJob)) record verdict := by
  induction trials generalizing s before with
  | nil => exact ⟨[], .ok (), s, rfl, by rw [List.append_nil]; rfl, .done⟩
  | cons t rest ih =>
      rcases given : compute s t.toJob with ⟨answer, next⟩
      have answers : answers compute s ((t :: rest).map Trial.toJob) =
          answer :: answers compute next (rest.map Trial.toJob) := by
        simp only [List.map_cons, ExceptionGeneration.answers, given]
      rw [answers]
      cases shown : assertThrows answer t.expected with
      | ok _ =>
          have judged : t.judge answer = .ok () := by rw [Trial.judge, shown]; rfl
          obtain ⟨record, verdict, last, plain, kept, tried⟩ := ih next (before ++ [(t.toJob, answer)])
          refine ⟨(t.toJob, answer) :: record, verdict, last, ?_, ?_, .accepted shown tried⟩
          · simp only [attempt, given, judged, plain]
          · simp only [attempt, recorded, given, judged, kept, List.append_assoc, List.singleton_append]
      | error mismatch =>
          have judged : t.judge answer = .error (.assertion (t.label ++ ": " ++ mismatch.text)) := by
            rw [Trial.judge, shown]; rfl
          refine ⟨[(t.toJob, answer)], _, next, ?_, ?_, .rejected shown⟩
          · simp only [attempt, given, judged]
          · simp only [attempt, recorded, given, judged]

namespace Tried

variable {trials : List Trial} {given : List Answer} {record : List (Job × Answer)}
  {verdict : Except Error Unit}

theorem isPrefix (tried : Tried trials given record verdict) :
    record <+: (trials.map Trial.toJob).zip given := by
  induction tried with
  | done => exact List.prefix_refl _
  | accepted _ _ ih => exact List.prefix_cons_inj _ |>.mpr ih
  | rejected _ => exact List.prefix_append [_] _

theorem ok_iff (tried : Tried trials given record verdict) :
    verdict = .ok () ↔ List.Forall₂ Trial.Accepts trials given := by
  induction tried with
  | done => exact iff_of_true rfl .nil
  | accepted accepts _ ih => rw [ih, List.forall₂_cons, and_iff_right accepts]
  | rejected rejects =>
      rw [List.forall₂_cons, Trial.Accepts, rejects]
      exact iff_of_false nofun fun h => nomatch h.1

/-- When all answers are accepted, all jobs have been submitted. -/
theorem record_of_ok (tried : Tried trials given record verdict) (ok : verdict = .ok ()) :
    record = (trials.map Trial.toJob).zip given := by
  induction tried with
  | done => rfl
  | accepted _ _ ih => rw [ih ok, List.map_cons, List.zip_cons_cons]
  | rejected _ => cases ok

/-- Otherwise the job of the first answer that is rejected has been submitted last. -/
theorem rejection (tried : Tried trials given record verdict) {e : Error} (failed : verdict = .error e) :
    ∃ before t rest good answer more mismatch, trials = before ++ t :: rest ∧
      given = good ++ answer :: more ∧ List.Forall₂ Trial.Accepts before good ∧
      assertThrows answer t.expected = .error mismatch ∧
      record = (before.map Trial.toJob).zip good ++ [(t.toJob, answer)] ∧
      e = .assertion (t.label ++ ": " ++ mismatch.text) := by
  induction tried with
  | done => cases failed
  | @accepted t rest answer more record verdict accepts others ih =>
      obtain ⟨before, u, rest, good, next, more, mismatch, rfl, rfl, all, rejects, rfl, text⟩ := ih failed
      exact ⟨t :: before, u, rest, answer :: good, next, more, mismatch, rfl, rfl, .cons accepts all,
        rejects, rfl, text⟩
  | @rejected t rest answer more mismatch rejects =>
      cases failed
      exact ⟨[], t, rest, [], answer, more, mismatch, rfl, rfl, .nil, rejects, rfl, rfl⟩

end Tried

/-- Whatever a compute answers, it is asked to execute the six jobs in their order, and no further one
once an answer has been rejected. Only if all six answers are accepted has the application finished, and
otherwise it fails with the name of the first trial whose answer was rejected, and why it was. -/
theorem run_ends_with_first_rejection (compute : σ → Job → Answer × σ) (context : Application.Context)
    (s : σ) :
    let job (way : JobKind) (kind : ExceptionKind) : Job :=
      ⟨way, .throw kind "Message from Exception" 127, "Details from Exception"⟩
    let jobs := [job .run .serializable, job .run .externalizable, job .call .serializable,
      job .call .externalizable, job .apply .serializable, job .apply .externalizable]
    let given := answers compute s jobs
    let (verdict, after, last, record) := run (recorded compute) context (s, [])
    trials.map Trial.toJob = jobs ∧
    (∀ t : Trial, t.toJob = job t.job t.exception ∧ t.expected =
      ⟨t.exception, "Message from Exception", 127, some "Details from Exception", []⟩) ∧
    run compute context s = (verdict, after, last) ∧ record <+: jobs.zip given ∧
    (verdict = .ok () ↔ List.Forall₂ Trial.Accepts trials given) ∧
    (after.progress = .finished ↔ List.Forall₂ Trial.Accepts trials given) ∧
    (verdict = .ok () ∧ after = { context with progress := .finished } ∧ record = jobs.zip given ∨
      ∃ before t rest good answer more mismatch, trials = before ++ t :: rest ∧
        given = good ++ answer :: more ∧ List.Forall₂ Trial.Accepts before good ∧
        assertThrows answer t.expected = .error mismatch ∧
        record = (before.map Trial.toJob).zip good ++ [(t.toJob, answer)] ∧
        verdict = .error (.assertion
          (t.toJob.name ++ " " ++ t.exception.label ++ ": " ++ mismatch.text)) ∧
        after = { context with progress := .initialized }) := by
  intro job jobs given
  obtain ⟨record, verdict, last, plain, kept, tried⟩ := attempt_recorded compute trials s []
  have all : trials.map Trial.toJob = jobs := rfl
  rw [all] at tried
  have ok := tried.ok_iff
  have submitted := tried.isPrefix
  simp only [run, plain, kept, List.nil_append]
  refine ⟨all, fun t => ⟨rfl, rfl⟩, trivial, submitted, ok, ?_, ?_⟩
  · rw [← ok]
    cases verdict with
    | ok _ => exact iff_of_true rfl rfl
    | error e => exact iff_of_false nofun nofun
  · cases verdict with
    | ok _ => exact .inl ⟨rfl, rfl, tried.record_of_ok rfl⟩
    | error e =>
        obtain ⟨before, t, rest, good, answer, more, mismatch, split, front, accepts, rejects, record,
          rfl⟩ := tried.rejection rfl
        exact .inr ⟨before, t, rest, good, answer, more, mismatch, split, front, accepts, rejects, record,
          rfl, rfl⟩

end ClusterHarness.ExceptionGeneration
