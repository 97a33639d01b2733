import ClusterHarness.Compute.Failure
import ClusterHarness.Proofs.Text.Split

/-! # What is left of wrapped failures

A failure is a chain of wrappers around one that is none. Wrappers are looked through from the outside on
until one does not carry the marker, and at most ten of them. So whatever stands below a wrapper without
the marker stays, and looking twice shows more than looking once just when more than ten were marked.
-/

namespace ClusterHarness.Compute.Failure

/-- Puts wrappers around a failure. The first one is the outermost. -/
def wrap (messages : List String) (failure : Failure) : Failure := messages.foldr remoteJob failure

/-- The messages of the wrappers around a failure, the outermost first. -/
def wrappers : Failure → List String
  | .remoteJob message cause => message :: cause.wrappers
  | _ => []

/-- The failure inside all wrappers. -/
def innermost : Failure → Failure
  | .remoteJob _ cause => cause.innermost
  | failure => failure

def IsMarked (message : String) : Prop := marker.toList <:+: message.toList

instance (message : String) : Decidable (IsMarked message) :=
  inferInstanceAs (Decidable (_ <:+: _))

/-- How many wrappers in a row carry the marker, from the outside on. -/
def markedDepth (failure : Failure) : Nat :=
  (failure.wrappers.takeWhile fun message => decide (IsMarked message)).length

variable {failure cause : Failure} {message : String} {messages : List String} {depth : Nat}

/-! ## Chains of wrappers -/

@[simp] theorem wrap_nil : wrap [] failure = failure := rfl

@[simp] theorem wrap_cons :
    wrap (message :: messages) failure = .remoteJob message (wrap messages failure) := rfl

theorem wrap_append (outer inner : List String) :
    wrap (outer ++ inner) failure = wrap outer (wrap inner failure) := List.foldr_append

theorem wrap_wrappers (failure : Failure) : wrap failure.wrappers failure.innermost = failure := by
  induction failure with
  | remoteJob message cause ih => rw [wrappers, innermost, wrap_cons, ih]
  | _ => rfl

@[simp] theorem wrappers_wrap : (wrap messages failure).wrappers = messages ++ failure.wrappers := by
  induction messages with
  | nil => rfl
  | cons message messages ih => rw [wrap_cons, wrappers, ih, List.cons_append]

@[simp] theorem wrappers_innermost : failure.innermost.wrappers = [] := by
  induction failure with
  | remoteJob message cause ih => exact ih
  | _ => rfl

theorem innermost_wrap : (wrap messages failure).innermost = failure.innermost := by
  induction messages with
  | nil => rfl
  | cons message messages ih => exact ih

/-! ## Wrappers that carry the marker -/

theorem markedDepth_of_marked (marked : IsMarked message) :
    (remoteJob message cause).markedDepth = cause.markedDepth + 1 := by
  rw [markedDepth, wrappers, List.takeWhile_cons_of_pos (by simpa using marked)]
  rfl

theorem markedDepth_of_unmarked (plain : ¬ IsMarked message) :
    (remoteJob message cause).markedDepth = 0 := by
  rw [markedDepth, wrappers, List.takeWhile_cons_of_neg (by simpa using plain)]
  rfl

theorem markedDepth_of_bare (bare : failure.wrappers = []) : failure.markedDepth = 0 := by
  rw [markedDepth, bare]
  rfl

theorem markedDepth_le (failure : Failure) : failure.markedDepth ≤ failure.wrappers.length :=
  (List.takeWhile_sublist _).length_le

theorem markedDepth_eq_zero_iff :
    failure.markedDepth = 0 ↔ ∀ message below, failure = .remoteJob message below → ¬ IsMarked message := by
  cases failure with
  | remoteJob message cause =>
      by_cases marked : IsMarked message
      · simp [markedDepth_of_marked marked, marked]
      · simp [markedDepth_of_unmarked marked, marked]
  | _ => exact iff_of_true rfl nofun

/-- A wrapper without the marker ends the row. -/
theorem markedDepth_wrap_le (plain : ¬ IsMarked message) (outer : List String) (cause : Failure) :
    (wrap outer (.remoteJob message cause)).markedDepth ≤ outer.length := by
  induction outer with
  | nil => exact (markedDepth_of_unmarked plain).le
  | cons first outer ih =>
      by_cases marked : IsMarked first
      · rw [wrap_cons, markedDepth_of_marked marked, List.length_cons]
        omega
      · rw [wrap_cons, markedDepth_of_unmarked marked]
        omega

/-! ## Looking through wrappers -/

theorem strip_of_marked (marked : IsMarked message) :
    (remoteJob message cause).strip (depth + 1) = cause.strip depth := by
  rw [strip, if_pos (Text.contains_iff_isInfix.mpr marked)]

theorem strip_of_unmarked (plain : ¬ IsMarked message) :
    (remoteJob message cause).strip depth = .remoteJob message cause := by
  cases depth with
  | zero => rfl
  | succ depth => rw [strip, if_neg fun marked => plain (Text.contains_iff_isInfix.mp marked)]

theorem strip_zero (failure : Failure) : failure.strip 0 = failure := by
  cases failure <;> rfl

theorem strip_of_bare (bare : failure.wrappers = []) : failure.strip depth = failure := by
  cases failure with
  | remoteJob message cause => cases bare
  | _ => cases depth <;> rfl

/-- The wrappers that are stripped are the first ones in the row, up to the depth. -/
theorem strip_eq (depth : Nat) (failure : Failure) :
    failure.strip depth =
      wrap (failure.wrappers.drop (min depth failure.markedDepth)) failure.innermost := by
  -- Each marked wrapper uses up one of the depth, so that the depth differs below it.
  induction failure generalizing depth with
  | remoteJob message cause ih =>
      by_cases marked : IsMarked message
      · cases depth with
        | zero => rw [strip_zero, Nat.zero_min, List.drop_zero, wrap_wrappers]
        | succ depth =>
            rw [strip_of_marked marked, markedDepth_of_marked marked, Nat.succ_min_succ, wrappers,
              List.drop_succ_cons, innermost, ih]
      · rw [strip_of_unmarked marked, markedDepth_of_unmarked marked, Nat.min_zero, List.drop_zero,
          wrap_wrappers]
  | _ => rw [strip_of_bare rfl, markedDepth_of_bare rfl, Nat.min_zero, List.drop_zero, wrap_wrappers]

theorem wrappers_strip :
    (failure.strip depth).wrappers = failure.wrappers.drop (min depth failure.markedDepth) := by
  rw [strip_eq, wrappers_wrap, wrappers_innermost, List.append_nil]

/-- What is left of the row is what was beyond the depth. -/
theorem markedDepth_strip (depth : Nat) (failure : Failure) :
    (failure.strip depth).markedDepth = failure.markedDepth - depth := by
  induction failure generalizing depth with
  | remoteJob message cause ih =>
      by_cases marked : IsMarked message
      · cases depth with
        | zero => rw [strip_zero, Nat.sub_zero]
        | succ depth => rw [strip_of_marked marked, markedDepth_of_marked marked, ih]; omega
      · rw [strip_of_unmarked marked, markedDepth_of_unmarked marked, Nat.zero_sub]
  | _ => rw [strip_of_bare rfl, markedDepth_of_bare rfl, Nat.zero_sub]

theorem strip_eq_self_iff : failure.strip depth = failure ↔ depth = 0 ∨ failure.markedDepth = 0 := by
  constructor
  · intro same
    have lengths := congrArg (fun f => f.wrappers.length) same
    have within := failure.markedDepth_le
    simp only [wrappers_strip, List.length_drop] at lengths
    omega
  · intro none
    have kept : min depth failure.markedDepth = 0 := by omega
    rw [strip_eq, kept, List.drop_zero, wrap_wrappers]

/-- A wrapper without the marker stays, with everything below it. -/
theorem strip_wrap (plain : ¬ IsMarked message) (outer : List String) :
    ∃ kept, kept <:+ outer ∧
      (wrap outer (.remoteJob message cause)).strip depth = wrap kept (.remoteJob message cause) := by
  have above := markedDepth_wrap_le plain outer cause
  generalize row : (wrap outer (.remoteJob message cause)).markedDepth = p at above
  refine ⟨outer.drop (min depth p), List.drop_suffix _ _, ?_⟩
  have short : min depth p ≤ outer.length := by omega
  rw [strip_eq, row, wrappers_wrap, innermost_wrap, List.drop_append_of_le_length short, wrap_append,
    wrap_wrappers]

/-- Of the wrappers in a row that carry the marker, from the outside on, ten are stripped at most, and
nothing else is. -/
theorem unwrapping_is_exact (failure : Failure) :
    failure = wrap failure.wrappers failure.innermost ∧
    failure.cause = wrap (failure.wrappers.drop (min 10 failure.markedDepth)) failure.innermost ∧
    failure.markedDepth ≤ failure.wrappers.length ∧
    (∀ outer message below, failure = wrap outer (.remoteJob message below) → ¬ IsMarked message →
      ∃ kept, kept <:+ outer ∧ failure.cause = wrap kept (.remoteJob message below)) ∧
    (failure.cause = failure ↔
      ∀ message below, failure = .remoteJob message below → ¬ IsMarked message) ∧
    (failure.cause.cause = failure.cause ↔ failure.markedDepth ≤ 10) := by
  refine ⟨(wrap_wrappers failure).symm, strip_eq 10 failure, markedDepth_le failure, ?_, ?_, ?_⟩
  · rintro outer message below rfl plain
    exact strip_wrap plain outer
  · rw [cause, strip_eq_self_iff, ← markedDepth_eq_zero_iff]
    exact or_iff_right (by decide)
  · rw [cause, cause, strip_eq_self_iff, markedDepth_strip]
    have ten : maxDepth = 10 := rfl
    omega

theorem unwrapping_is_exact_mixed :
    let marked := "1: " ++ marker
    let mixed := wrap [marked, "Node left", marked] .emptyClusterGroup
    let deep := wrap (List.replicate 11 marked) .emptyClusterGroup
    (∃ kept, kept <:+ [marked] ∧
      mixed.cause = wrap kept (.remoteJob "Node left" (.remoteJob marked .emptyClusterGroup))) ∧
    deep.cause.cause ≠ deep.cause := by
  intro marked mixed deep
  have stays := (unwrapping_is_exact mixed).2.2.2.1 [marked] "Node left" _ rfl (by decide +kernel)
  have twice := (unwrapping_is_exact deep).2.2.2.2.2
  exact ⟨stays, fun same => absurd (twice.mp same) (by decide +kernel)⟩

end ClusterHarness.Compute.Failure
