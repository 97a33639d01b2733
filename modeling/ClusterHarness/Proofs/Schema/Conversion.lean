import ClusterHarness.Proofs.Schema.RoundTrip

/-! # Records from settings

A record is converted entry by entry: an entry sets the field of its name, and one without a field of its
name is left alone. Where no name comes up twice, a part of the record has the value of the entry of its
name, or the value it had before if there is none.
-/

namespace ClusterHarness.Schema

variable {ρ α : Type} {codec : Codec α} {get : ρ → α} {s : Settings.Setting} {r r' : ρ}

theorem mapError_eq_ok {ε ε' α : Type} {x : Except ε α} {f : ε → ε'} {a : α}
    (h : x.mapError f = .ok a) : x = .ok a := by
  cases x with
  | error e => cases h
  | ok b =>
      cases h
      rfl

namespace Field

variable {name : String} {set : α → ρ → ρ}

theorem plain_convert {a : α} (h : codec.convert s = .ok a) :
    (plain name codec get set).convert s r = .ok (set a r) := by
  simp only [plain, h]
  rfl

theorem plain_converted (h : (plain name codec get set).convert s r = .ok r') :
    ∃ a, codec.convert s = .ok a ∧ r' = set a r := by
  obtain ⟨a, converted, ⟨⟩⟩ := bind_eq_ok h
  exact ⟨a, converted, rfl⟩

/-- Whether a part of a record stays as it is when the field is converted. -/
def Spares (field : Field ρ) (get : ρ → α) : Prop :=
  ∀ s r r', field.convert s r = .ok r' → get r' = get r

theorem plain_spares {β : Type} {other : ρ → β} (spares : ∀ a r, other (set a r) = other r) :
    (plain name codec get set).Spares other := by
  intro s r r' h
  obtain ⟨a, -, rfl⟩ := plain_converted h
  exact spares a r

end Field

namespace Record

variable {record : Record ρ} {name : String} {entries : List (String × Settings.Setting)}

/-- Whether a part of a record is set by the field of a name, and by no other field. -/
structure Sets (record : Record ρ) (name : String) (codec : Codec α) (get : ρ → α) : Prop where
  known : ∃ field ∈ record.fields, field.name = name
  own : ∀ field ∈ record.fields, field.name = name → ∀ s r r', field.convert s r = .ok r' →
    codec.convert s = .ok (get r')
  kept : ∀ field ∈ record.fields, field.name ≠ name → field.Spares get

/-- A plain field sets its part if the fields around it have other names and spare that part. -/
theorem sets_plain {set : α → ρ → ρ} (before after : List (Field ρ))
    (fields : record.fields = before ++ .plain name codec get set :: after)
    (sets : ∀ a r, get (set a r) = a)
    (others : ∀ field ∈ before ++ after, field.name ≠ name ∧ field.Spares get) :
    record.Sets name codec get where
  known := ⟨.plain name codec get set, by simp [fields], rfl⟩
  own := by
    intro field there named s r r' h
    rw [fields, List.mem_append, List.mem_cons] at there
    rcases there with there | rfl | there
    · exact absurd named (others field (List.mem_append_left _ there)).1
    · obtain ⟨a, converted, rfl⟩ := Field.plain_converted h
      rw [converted, sets]
    · exact absurd named (others field (List.mem_append_right _ there)).1
  kept := by
    intro field there apart
    rw [fields, List.mem_append, List.mem_cons] at there
    rcases there with there | rfl | there
    · exact (others field (List.mem_append_left _ there)).2
    · exact absurd rfl apart
    · exact (others field (List.mem_append_right _ there)).2

/-- What the first entry does before the others are converted. -/
theorem convertEntries_cons (h : record.convertEntries r ((name, s) :: entries) = .ok r') :
    ∃ next, record.convertEntries next entries = .ok r' ∧
      ((∀ field ∈ record.fields, field.name ≠ name) ∧ next = r ∨
        ∃ field ∈ record.fields, field.name = name ∧ field.convert s r = .ok next) := by
  rw [convertEntries] at h
  split at h
  · rename_i unknown
    refine ⟨r, h, .inl ⟨fun field there same => ?_, rfl⟩⟩
    simpa [same] using List.find?_eq_none.mp unknown field there
  · rename_i field found
    obtain ⟨next, converted, h⟩ := bind_eq_ok h
    have named : field.name = name := by simpa using List.find?_some found
    exact ⟨next, h, .inr ⟨field, List.mem_of_find?_eq_some found, named, mapError_eq_ok converted⟩⟩

/-- Entries are converted if each of them can be. -/
theorem convertEntries_ok (each : ∀ field ∈ record.fields, ∀ s, (field.name, s) ∈ entries →
    ∀ r, ∃ r', field.convert s r = .ok r') (r : ρ) : ∃ r', record.convertEntries r entries = .ok r' := by
  induction entries generalizing r with
  | nil => exact ⟨r, rfl⟩
  | cons entry rest ih =>
      obtain ⟨name, s⟩ := entry
      have later := ih fun field there s inside => each field there s (List.mem_cons_of_mem _ inside)
      rw [convertEntries]
      split
      · exact later r
      · rename_i field found
        have named : field.name = name := by simpa using List.find?_some found
        obtain ⟨next, converted⟩ :=
          each field (List.mem_of_find?_eq_some found) s (named ▸ List.mem_cons_self) r
        rw [converted]
        exact later next

/-- Entries of other names leave a part as it is. -/
theorem Sets.kept_all (sets : record.Sets name codec get) (absent : name ∉ entries.map Prod.fst)
    (h : record.convertEntries r entries = .ok r') : get r' = get r := by
  induction entries generalizing r with
  | nil =>
      cases h
      rfl
  | cons entry rest ih =>
      obtain ⟨other, s⟩ := entry
      rw [List.map_cons, List.mem_cons, not_or] at absent
      obtain ⟨next, after, ⟨-, rfl⟩ | ⟨field, there, named, converted⟩⟩ := convertEntries_cons h
      · exact ih absent.2 after
      · have apart : field.name ≠ name := fun same => absent.1 (same.symm.trans named)
        rw [ih absent.2 after, sets.kept field there apart s r next converted]

/-- The entry of a name decides the part that is set by the field of that name. -/
theorem Sets.own_of_mem (sets : record.Sets name codec get) (nodup : (entries.map Prod.fst).Nodup)
    (member : (name, s) ∈ entries) (h : record.convertEntries r entries = .ok r') :
    codec.convert s = .ok (get r') := by
  induction entries generalizing r with
  | nil => cases member
  | cons entry rest ih =>
      obtain ⟨other, v⟩ := entry
      rw [List.map_cons, List.nodup_cons] at nodup
      obtain ⟨next, after, first⟩ := convertEntries_cons h
      rcases List.mem_cons.mp member with here | later
      · cases here
        rcases first with ⟨unknown, -⟩ | ⟨field, there, named, converted⟩
        · obtain ⟨field, there, named⟩ := sets.known
          exact absurd named (unknown field there)
        · rw [sets.kept_all nodup.1 after]
          exact sets.own field there named s r next converted
      · exact ih nodup.2 later after

end Record

end ClusterHarness.Schema
