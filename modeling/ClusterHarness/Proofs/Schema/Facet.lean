import ClusterHarness.Schema.Override
import Mathlib.Data.List.Basic
import Mathlib.Data.List.Induction

/-! # Overrides, field by field

What overrides make of a record is told by what each of them makes of each field: most set it, and some
add to what is there. Which ones count, which may change places and which may be applied again follows
from that, for any record.
-/

namespace ClusterHarness.Schema

/-- A field of a record, and what overrides make of it. -/
structure Facet (α ω : Type) where
  {β : Type}
  value : α → β
  /-- What an override sets the field to, if it sets it. -/
  given? : ω → Option β
  /-- What an override makes of the value that is there, if it adds to it. -/
  addition? : ω → Option (β → β)

namespace Facet

variable {α β ω : Type} {facet : Facet α ω} {w : ω}

/-- A field that overrides only set. -/
def set (value : α → β) (given? : ω → Option β) : Facet α ω := ⟨value, given?, fun _ => none⟩

def adds (facet : Facet α ω) (w : ω) : Bool := (facet.addition? w).isSome

/-- Whether an override is one of this field. -/
def names (facet : Facet α ω) (w : ω) : Bool := (facet.given? w).isSome || facet.adds w

/-- Whether overrides only set the field. -/
def IsPlain (facet : Facet α ω) : Prop := ∀ w, facet.adds w = false

theorem isPlain_set (value : α → β) (given? : ω → Option β) : (set value given?).IsPlain :=
  fun _ => rfl

/-- The value that one override leaves. -/
def step (facet : Facet α ω) (v : facet.β) (w : ω) : facet.β :=
  match facet.given? w, facet.addition? w with
  | some given, _ => given
  | none, some add => add v
  | none, none => v

theorem step_of_unnamed (unnamed : facet.names w = false) (v : facet.β) : facet.step v w = v := by
  simp only [names, adds, Bool.or_eq_false_iff, Option.isSome_eq_false_iff,
    Option.isNone_iff_eq_none] at unnamed
  simp only [step, unnamed]

/-- What only sets a field may as well be done again. -/
theorem step_step (nothing : facet.adds w = false) (v : facet.β) :
    facet.step (facet.step v w) w = facet.step v w := by
  simp only [adds, Option.isSome_eq_false_iff, Option.isNone_iff_eq_none] at nothing
  simp only [step, nothing]
  cases facet.given? w <;> rfl

theorem step_of_isPlain (plain : facet.IsPlain) (v : facet.β) (w : ω) :
    facet.step v w = (facet.given? w).getD v := by
  have nothing : facet.addition? w = none := by simpa [adds] using plain w
  rw [step, nothing]
  cases facet.given? w <;> rfl

end Facet

/-- Some fields are all that a record has, and tell what each override makes of it. -/
structure Explains {α ω : Type} (apply : α → ω → α) (facets : List (Facet α ω)) : Prop where
  /-- Records with the same fields are the same. -/
  whole : ∀ a b, (∀ facet ∈ facets, facet.value a = facet.value b) → a = b
  /-- Each override names one field. -/
  single : ∀ w, facets.countP (fun facet => facet.names w) = 1
  step : ∀ facet ∈ facets, ∀ a w, facet.value (apply a w) = facet.step (facet.value a) w

/-- Overrides touch the fields that they name, and nothing else. -/
structure Faithful {α ω : Type} (apply : α → ω → α) (facets : List (Facet α ω)) : Prop
    extends Explains apply facets where
  /-- After some overrides a field has the value that the last of them gives that names it, or the one
  that it had before. -/
  last : ∀ facet ∈ facets, facet.IsPlain → ∀ a (steps : List ω),
    facet.value (steps.foldl apply a) = (steps.reverse.findSome? facet.given?).getD (facet.value a)
  /-- Overrides of different fields may change places. -/
  commute : ∀ a v w, (∀ facet ∈ facets, ¬ (facet.names v = true ∧ facet.names w = true)) →
    apply (apply a v) w = apply (apply a w) v
  /-- An override that adds nothing may as well be applied again. -/
  again : ∀ a w, (∀ facet ∈ facets, facet.adds w = false) → apply (apply a w) w = apply a w

namespace Explains

variable {α ω : Type} {apply : α → ω → α} {facets : List (Facet α ω)}

theorem faithful (explains : Explains apply facets) : Faithful apply facets where
  toExplains := explains
  last facet there plain a steps := by
    induction steps using List.reverseRecOn with
    | nil => rfl
    | append_singleton steps w ih =>
        rw [List.foldl_concat, explains.step facet there, Facet.step_of_isPlain plain, ih,
          List.reverse_concat, List.findSome?_cons]
        cases facet.given? w <;> rfl
  commute a v w apart := by
    refine explains.whole _ _ fun facet there => ?_
    simp only [explains.step facet there]
    by_cases named : facet.names v = true
    · have other : facet.names w = false := by simpa [named] using apart facet there
      simp only [Facet.step_of_unnamed other]
    · have other : facet.names v = false := by simpa using named
      simp only [Facet.step_of_unnamed other]
  again a w nothing := by
    refine explains.whole _ _ fun facet there => ?_
    simp only [explains.step facet there, Facet.step_step (nothing facet there)]

end Explains

end ClusterHarness.Schema
