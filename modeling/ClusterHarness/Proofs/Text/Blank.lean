import ClusterHarness.Text.Blank
import Mathlib.Data.List.TakeWhile

/-! # Text without blanks

What trimming leaves is the text between its outer blanks, and it begins and ends with something else.
-/

namespace ClusterHarness.Text

theorem dropWhile_isBlank {s : List Char} (h : ∀ c ∈ s, isBlank c = false) :
    s.dropWhile isBlank = s := by
  cases s with
  | nil => rfl
  | cons c s => simp [h c (by simp)]

theorem trimChars_of_no_blank {s : List Char} (h : ∀ c ∈ s, isBlank c = false) : trimChars s = s := by
  have turned : ∀ c ∈ s.reverse, isBlank c = false := by
    intro c there
    exact h c (List.mem_reverse.mp there)
  rw [trimChars, dropWhile_isBlank h, dropWhile_isBlank turned, List.reverse_reverse]

/-- Whether `t` is what `s` has between the blanks at both ends. -/
structure Trims (s t : List Char) : Prop where
  around : ∃ before after, s = before ++ t ++ after ∧ (∀ c ∈ before, isBlank c = true) ∧
    ∀ c ∈ after, isBlank c = true
  front : ∀ c ∈ t.head?, isBlank c = false
  back : ∀ c ∈ t.getLast?, isBlank c = false

theorem not_isBlank_head? {s : List Char} {c : Char} (h : (s.dropWhile isBlank).head? = some c) :
    isBlank c = false := by
  have first := List.head?_dropWhile_not isBlank s
  rw [h] at first
  simpa using first

theorem trims_trimChars (s : List Char) : Trims s (trimChars s) := by
  obtain ⟨after, behind, blank⟩ : ∃ after, s.dropWhile isBlank = trimChars s ++ after ∧
      ∀ c ∈ after, isBlank c = true := by
    refine ⟨((s.dropWhile isBlank).reverse.takeWhile isBlank).reverse, ?_, fun c there => ?_⟩
    · rw [trimChars, ← List.reverse_append, List.takeWhile_append_dropWhile, List.reverse_reverse]
    · exact List.mem_takeWhile_imp (List.mem_reverse.mp there)
  constructor
  · refine ⟨s.takeWhile isBlank, after, ?_, fun c => List.mem_takeWhile_imp, blank⟩
    rw [List.append_assoc, ← behind, List.takeWhile_append_dropWhile]
  · intro c first
    apply not_isBlank_head? (s := s)
    rw [behind, List.head?_append, first]
    rfl
  · intro c last
    apply not_isBlank_head? (s := (s.dropWhile isBlank).reverse)
    rwa [trimChars, List.getLast?_reverse] at last

end ClusterHarness.Text
