import ClusterHarness.Settings.Tree

/-! # What is found in merged settings

A merge changes the entry of one name and leaves all others as they are, and no name comes up twice. So
what is found under a name is the last value that was merged there.
-/

namespace ClusterHarness.Settings.Setting

section

variable {name other : String} {value : Setting} {entries : List (String × Setting)}

theorem lookup_cons {key : String} : ((key, value) :: entries).lookup other =
    if other = key then some value else entries.lookup other := by
  by_cases same : other = key
  · subst same
    simp
  · have differs : (other == key) = false := beq_eq_false_iff_ne.mpr same
    rw [List.lookup_cons, differs, if_neg same]

theorem mem_of_lookup (h : entries.lookup name = some value) : (name, value) ∈ entries := by
  obtain ⟨before, after, rfl, -⟩ := List.lookup_eq_some_iff.mp h
  simp

theorem not_mem_of_lookup (h : entries.lookup name = none) : name ∉ entries.map Prod.fst := by
  intro there
  obtain ⟨entry, member, rfl⟩ := List.mem_map.mp there
  simpa using List.lookup_eq_none_iff.mp h entry member

theorem lookup_of_mem (nodup : (entries.map Prod.fst).Nodup) (member : (name, value) ∈ entries) :
    entries.lookup name = some value := by
  induction entries with
  | nil => cases member
  | cons entry rest ih =>
      obtain ⟨key, old⟩ := entry
      rw [List.map_cons, List.nodup_cons] at nodup
      rw [lookup_cons]
      rcases List.mem_cons.mp member with here | later
      · cases here
        exact if_pos rfl
      · have apart : name ≠ key := by
          rintro rfl
          exact nodup.1 (List.mem_map.mpr ⟨_, later, rfl⟩)
        rw [if_neg apart, ih nodup.2 later]

theorem lookup_replaceEntry : (replaceEntry name value entries).lookup other =
    if other = name then some value else entries.lookup other := by
  induction entries with
  | nil => rw [replaceEntry, lookup_cons]
  | cons entry rest ih =>
      obtain ⟨key, old⟩ := entry
      rw [replaceEntry, lookup_cons]
      split
      · rename_i here
        subst here
        rw [lookup_cons]
        split <;> rfl
      · rename_i apart
        rw [lookup_cons, ih]
        split
        · rename_i asked
          subst asked
          rw [if_neg apart]
        · rfl

/-- A name that is replaced is where it was, and one that is new comes last. -/
theorem map_fst_replaceEntry : (replaceEntry name value entries).map Prod.fst =
    if name ∈ entries.map Prod.fst then entries.map Prod.fst else entries.map Prod.fst ++ [name] := by
  induction entries with
  | nil => simp [replaceEntry]
  | cons entry rest ih =>
      obtain ⟨key, old⟩ := entry
      by_cases here : key = name
      · subst here
        simp [replaceEntry]
      · simp only [replaceEntry, if_neg here, List.map_cons, ih, List.mem_cons, Ne.symm here, false_or]
        split <;> rfl

theorem nodup_replaceEntry (nodup : (entries.map Prod.fst).Nodup) :
    ((replaceEntry name value entries).map Prod.fst).Nodup := by
  rw [map_fst_replaceEntry]
  split
  · exact nodup
  · rename_i new
    rw [List.nodup_append]
    refine ⟨nodup, by simp, ?_⟩
    intro key there last added
    rw [List.mem_singleton.mp added]
    rintro rfl
    exact new there

end

/-- What is found under a name. -/
def find? (name : String) : Setting → Option Setting
  | .table _ entries => entries.lookup name
  | _ => none

/-- A table in which no name comes up twice. -/
def IsOrderly (t : Setting) : Prop :=
  ∃ origin entries, t = .table origin entries ∧ (entries.map Prod.fst).Nodup

theorem isOrderly_empty : empty.IsOrderly := ⟨none, [], rfl, List.nodup_nil⟩

variable {t : Setting} {name other : String} {f : Setting → Setting}

theorem find?_change : (t.change name f).find? other =
    if other = name then some (f ((t.find? name).getD empty)) else t.find? other := by
  cases t with
  | table origin entries => exact lookup_replaceEntry
  | absent | scalar | list => exact lookup_cons

theorem isOrderly_change (orderly : t.IsOrderly) : (t.change name f).IsOrderly := by
  obtain ⟨origin, entries, rfl, nodup⟩ := orderly
  exact ⟨origin, _, rfl, nodup_replaceEntry nodup⟩

/-- A value on top of another one: a table is merged into it, and any other value takes its place. -/
def upon (value target : Setting) : Setting :=
  match value with
  | .table _ entries => target.mergeAll entries
  | value => value

theorem merge_eq (t : Setting) (name : String) (value : Setting) :
    t.merge name value = t.change (Text.lower name) value.upon := by
  cases value <;> rfl

theorem find?_merge {value : Setting} : (t.merge name value).find? other =
    if other = Text.lower name then some (value.upon ((t.find? (Text.lower name)).getD empty))
    else t.find? other := by
  rw [merge_eq, find?_change]

theorem isOrderly_mergeAll {entries : List (String × Setting)} (orderly : t.IsOrderly) :
    (t.mergeAll entries).IsOrderly := by
  induction entries generalizing t with
  | nil =>
      rw [mergeAll]
      exact orderly
  | cons entry rest ih =>
      rw [mergeAll, merge_eq]
      exact ih (isOrderly_change orderly)

/-- The last value that entries give to a name, whatever its case. -/
def lastOf (name : String) (entries : List (String × Setting)) : Option Setting :=
  entries.reverse.findSome? fun entry => if Text.lower entry.1 = name then some entry.2 else none

theorem lastOf_cons {key : String} {value : Setting} {rest : List (String × Setting)} :
    lastOf name ((key, value) :: rest) =
      (lastOf name rest).or (if Text.lower key = name then some value else none) := by
  rw [lastOf, List.reverse_cons, List.findSome?_append, List.findSome?_singleton, lastOf]

theorem lastOf_eq_some {entries : List (String × Setting)} {value : Setting}
    (h : lastOf name entries = some value) : ∃ key, (key, value) ∈ entries ∧ Text.lower key = name := by
  obtain ⟨⟨key, v⟩, there, given⟩ := List.exists_of_findSome?_eq_some h
  split at given
  · rename_i same
    cases given
    exact ⟨key, List.mem_reverse.mp there, same⟩
  · cases given

theorem lastOf_eq_none {entries : List (String × Setting)} :
    lastOf name entries = none ↔ ∀ key value, (key, value) ∈ entries → Text.lower key ≠ name := by
  rw [lastOf, List.findSome?_eq_none_iff]
  constructor
  · intro missing key value there same
    have given := missing (key, value) (List.mem_reverse.mpr there)
    rw [if_pos same] at given
    cases given
  · rintro apart ⟨key, value⟩ there
    exact if_neg (apart key value (List.mem_reverse.mp there))

/-- Under a name that is given no table, the last value that is given is found, and what was there if none
is given. -/
theorem find?_mergeAll {entries : List (String × Setting)}
    (plain : ∀ key value, (key, value) ∈ entries → Text.lower key = name →
      ∀ target, value.upon target = value) :
    (t.mergeAll entries).find? name = (lastOf name entries).or (t.find? name) := by
  induction entries generalizing t with
  | nil => simp [mergeAll, lastOf]
  | cons entry rest ih =>
      obtain ⟨key, value⟩ := entry
      rw [mergeAll, ih fun other v there => plain other v (List.mem_cons_of_mem _ there), find?_merge,
        lastOf_cons, Option.or_assoc]
      by_cases here : Text.lower key = name
      · rw [if_pos here.symm, if_pos here, plain key value List.mem_cons_self here, Option.some_or]
      · rw [if_neg (Ne.symm here), if_neg here, Option.none_or]

end ClusterHarness.Settings.Setting
