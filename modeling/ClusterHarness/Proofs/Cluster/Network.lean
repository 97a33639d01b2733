import ClusterHarness.Cluster.Network
import Mathlib.Data.List.Nodup

/-! # Binding and releasing addresses

What a binding asks for and what it leaves, and that a release takes it back.
-/

namespace ClusterHarness.Cluster.Network

variable {ι : Type} {n m : Network ι} {addresses : List String} {o owner : ι} {a : String}

theorem owner?_eq_none : n.owner? a = none ↔ ∀ o, (a, o) ∉ n.bindings := by
  simp only [owner?, List.lookup_eq_none_iff, bne_iff_ne, ne_eq]
  constructor
  · intro h o bound
    exact h _ bound rfl
  · rintro h ⟨b, o⟩ bound same
    exact h o (same ▸ bound)

theorem isBound_eq_false : n.isBound a = false ↔ ∀ o, (a, o) ∉ n.bindings := by
  rw [isBound, ← owner?_eq_none, Option.isSome_eq_false_iff, Option.isNone_iff_eq_none]

theorem mem_of_owner? (h : n.owner? a = some owner) : (a, owner) ∈ n.bindings := by
  obtain ⟨before, after, split, -⟩ := List.lookup_eq_some_iff.mp h
  rw [split]
  simp

/-- With no address bound twice, a binding tells the owner. -/
theorem owner?_of_mem (distinct : (n.bindings.map Prod.fst).Nodup) (h : (a, owner) ∈ n.bindings) :
    n.owner? a = some owner := by
  cases found : n.owner? a with
  | none => exact absurd h (owner?_eq_none.mp found owner)
  | some o =>
      have same := List.inj_on_of_nodup_map distinct (mem_of_owner? found) h rfl
      cases same
      rfl

/-- Addresses are bound all together, and only if nobody has one of them. -/
theorem bindAll_ok (h : n.bindAll addresses owner = .ok m) :
    (∀ a ∈ addresses, ∀ o, (a, o) ∉ n.bindings) ∧
      m = ⟨n.bindings ++ addresses.map fun address => (address, owner)⟩ := by
  simp only [bindAll] at h
  split at h
  · cases h
  · rename_i free
    cases h
    refine ⟨fun a member => isBound_eq_false.mp ?_, rfl⟩
    simpa using List.find?_eq_none.mp free a member

/-- Whether addresses can be bound does not depend on who binds them. -/
theorem bindAll_of_bindAll (h : n.bindAll addresses owner = .ok m) (o : ι) :
    ∃ m, n.bindAll addresses o = .ok m := by
  simp only [bindAll] at h ⊢
  split at h
  · cases h
  · exact ⟨_, rfl⟩

/-- What has been bound cannot be bound again: the first of the addresses is taken. -/
theorem bindAll_again {rest : List String} (h : n.bindAll (a :: rest) owner = .ok m) (o : ι) :
    m.bindAll (a :: rest) o = .error (.addressTaken a) := by
  obtain ⟨free, rfl⟩ := bindAll_ok h
  have unbound : n.bindings.lookup a = none := owner?_eq_none.mpr (free a (by simp))
  simp [bindAll, isBound, owner?, List.lookup_append, unbound]

/-- A binding takes no address from its owner. -/
theorem owner?_bindAll (h : n.bindAll addresses o = .ok m) (bound : n.owner? a = some owner) :
    m.owner? a = some owner := by
  obtain ⟨-, rfl⟩ := bindAll_ok h
  rw [owner?] at bound ⊢
  rw [List.lookup_append, bound, Option.some_or]

theorem resolve?_bindAll (h : n.bindAll addresses owner = .ok m) (some : addresses ≠ []) :
    m.resolve? addresses = .some owner := by
  obtain ⟨free, rfl⟩ := bindAll_ok h
  obtain ⟨a, rest, rfl⟩ := List.exists_cons_of_ne_nil some
  have unbound : n.bindings.lookup a = none := owner?_eq_none.mpr (free a (by simp))
  simp [resolve?, owner?, List.lookup_append, unbound]

theorem owner?_unbindAll (other : a ∉ addresses) :
    (n.unbindAll addresses).owner? a = n.owner? a := by
  simp only [unbindAll, owner?]
  induction n.bindings with
  | nil => rfl
  | cons binding rest ih =>
      obtain ⟨b, o⟩ := binding
      by_cases kept : b ∈ addresses
      · have apart : (a == b) = false := by
          rw [beq_eq_false_iff_ne]
          rintro rfl
          exact other kept
        rw [List.filter_cons_of_neg (by simpa using kept), List.lookup_cons, apart, ih]
      · rw [List.filter_cons_of_pos (by simpa using kept), List.lookup_cons, List.lookup_cons, ih]

/-- What was bound is the same again after a binding and its release. -/
theorem unbindAll_bindAll (h : n.bindAll addresses owner = .ok m) : m.unbindAll addresses = n := by
  obtain ⟨free, rfl⟩ := bindAll_ok h
  have kept : n.bindings.filter (fun x => decide (x.1 ∉ addresses)) = n.bindings := by
    rw [List.filter_eq_self]
    rintro ⟨a, o⟩ bound
    simpa using fun member => free a member o bound
  have gone : (addresses.map fun address => (address, owner)).filter
      (fun x => decide (x.1 ∉ addresses)) = [] := by
    rw [List.filter_eq_nil_iff]
    rintro ⟨a, o⟩ bound
    obtain ⟨b, member, same⟩ := List.mem_map.mp bound
    cases same
    simpa using member
  simp only [unbindAll, List.filter_append, kept, gone, List.append_nil]

/-- The addresses of an owner lead to it, if there is any. -/
theorem resolve?_of_owned (distinct : (n.bindings.map Prod.fst).Nodup) (some : addresses ≠ [])
    (owned : ∀ a ∈ addresses, (a, owner) ∈ n.bindings) : n.resolve? addresses = .some owner := by
  cases addresses with
  | nil => exact absurd rfl some
  | cons a rest =>
      rw [resolve?, List.findSome?_cons, owner?_of_mem distinct (owned a (by simp))]

/-- The owner of the first address that is bound is the one that is found. -/
theorem resolve?_eq_find? : n.resolve? addresses = (addresses.find? n.isBound).bind n.owner? := by
  rw [resolve?]
  induction addresses with
  | nil => rfl
  | cons a rest ih =>
      rw [List.findSome?_cons, List.find?_cons, isBound]
      cases bound : n.owner? a with
      | none => exact ih
      | some owner => exact bound.symm

end ClusterHarness.Cluster.Network
