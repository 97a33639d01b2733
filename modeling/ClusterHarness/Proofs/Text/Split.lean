import ClusterHarness.Text.Split
import Mathlib.Data.List.Infix

/-! # Parts of texts

Where a part stands in a text, and which parts a text falls into.
-/

namespace ClusterHarness.Text

theorem occursIn_iff_infix {part s : List Char} : occursIn part s = true ↔ part <:+: s := by
  induction s with
  | nil => simp [occursIn]
  | cons c s ih =>
      rw [occursIn, Bool.or_eq_true, List.isPrefixOf_iff_prefix, ih, List.infix_cons_iff]

theorem contains_iff_isInfix {s part : String} : contains s part = true ↔ part.toList <:+: s.toList :=
  occursIn_iff_infix

theorem contains_self (s : String) : contains s s = true := occursIn_iff_infix.mpr (List.infix_refl _)

theorem contains_append_left {s part : String} (h : contains s part = true) (after : String) :
    contains (s ++ after) part = true := by
  rw [contains_iff_isInfix] at h ⊢
  rw [String.toList_append]
  exact List.infix_append_of_infix_left h

theorem contains_append_right {s part : String} (h : contains s part = true) (before : String) :
    contains (before ++ s) part = true := by
  rw [contains_iff_isInfix] at h ⊢
  rw [String.toList_append]
  exact List.infix_append_of_infix_right h

theorem splitAt_of_not_mem {separator : Char} {s : List Char} (h : separator ∉ s) :
    splitAt separator s = [s] := by
  induction s with
  | nil => rfl
  | cons c s ih =>
      rw [List.mem_cons, not_or] at h
      simp [splitAt, Ne.symm h.1, ih h.2]

theorem splitAt_append_cons {separator : Char} {s : List Char} (h : separator ∉ s) (rest : List Char) :
    splitAt separator (s ++ separator :: rest) = s :: splitAt separator rest := by
  induction s with
  | nil => simp [splitAt]
  | cons c s ih =>
      rw [List.mem_cons, not_or] at h
      simp [splitAt, Ne.symm h.1, ih h.2]

theorem splitAt_ne_nil (separator : Char) (s : List Char) : splitAt separator s ≠ [] := by
  cases s with
  | nil => simp [splitAt]
  | cons c s =>
      rw [splitAt]
      split
      · simp
      · split <;> simp

/-- The parts of a text give it back, and the separator stands in none of them. -/
theorem splitAt_cons {separator : Char} {s part : List Char} {parts : List (List Char)}
    (h : splitAt separator s = part :: parts) :
    separator ∉ part ∧ (parts = [] ∧ s = part ∨
      ∃ rest, s = part ++ separator :: rest ∧ splitAt separator rest = parts) := by
  induction s generalizing part with
  | nil =>
      cases h
      simp
  | cons c s ih =>
      rw [splitAt] at h
      split at h
      · rename_i same
        cases h
        exact ⟨List.not_mem_nil, .inr ⟨s, by rw [same]; rfl, rfl⟩⟩
      · rename_i other
        split at h
        · rename_i none
          exact absurd none (splitAt_ne_nil separator s)
        · rename_i first later split
          cases h
          obtain ⟨clean, whole⟩ := ih split
          refine ⟨by simp [Ne.symm other, clean], ?_⟩
          rcases whole with ⟨rfl, rfl⟩ | ⟨rest, rfl, more⟩
          · exact .inl ⟨rfl, rfl⟩
          · exact .inr ⟨rest, rfl, more⟩

end ClusterHarness.Text
