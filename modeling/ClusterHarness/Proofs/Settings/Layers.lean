import ClusterHarness.Proofs.Settings.Times
import ClusterHarness.Proofs.Text.Lowercase
import ClusterHarness.Settings.Load

/-! # What layers say about the times

The layer of the values that hold so far says every time. That of a document says the times that its tables
set, in any case of their names, and that of the environment those whose variables hold numerals. Keys and
variables that are apart from the times say nothing.
-/

namespace ClusterHarness.Settings

/-- A key without dots and brackets is a name as a whole. -/
theorem keyPath_name {key : String} (dot : '.' ∉ key.toList) (bracket : '[' ∉ key.toList) :
    keyPath key = [.name key] := by
  unfold keyPath
  cases read : pathName? key.toList with
  | none => rfl
  | some result =>
      obtain ⟨step, rest⟩ := result
      unfold pathName? at read
      dsimp only at read
      split at read
      · cases read
      · obtain ⟨rfl, rfl⟩ := Prod.mk.inj (Option.some.inj read)
        dsimp only [bind, Option.bind]
        cases left : key.toList.drop (key.toList.takeWhile isNameChar).length with
        | nil =>
            have whole : key.toList.takeWhile isNameChar = key.toList :=
              (List.takeWhile_prefix _).eq_of_length_le (List.drop_eq_nil_iff.mp left)
            rw [whole, String.ofList_toList]
            rfl
        | cons c tail =>
            have there : c ∈ key.toList := List.mem_of_mem_drop (left ▸ List.mem_cons_self)
            have more : moreSteps? (c :: tail).length (c :: tail) = none := by
              unfold moreSteps?
              split
              · rename_i empty
                cases empty
              · rename_i same
                cases same
                exact absurd there dot
              · rename_i same
                cases same
                exact absurd there bracket
              · rfl
            rw [more]
            rfl

theorem keyPath_of_lower {key : String} {x : Time} (same : Text.lower key = x.table) :
    keyPath key = [.name key] := by
  have dot : '.' ∉ x.table.toList := by cases x <;> decide
  have bracket : '[' ∉ x.table.toList := by cases x <;> decide
  apply keyPath_name
  · intro there
    exact dot (same ▸ Text.mem_lower ⟨by decide, by decide, by decide⟩ there)
  · intro there
    exact bracket (same ▸ Text.mem_lower ⟨by decide, by decide, by decide⟩ there)

namespace Time

@[simp] theorem lower_table (x : Time) : Text.lower x.table = x.table := by
  cases x <;> decide +kernel

@[simp] theorem lower_name (x : Time) : Text.lower x.name = x.name := by
  cases x <;> decide +kernel

end Time

namespace Layer

variable {layer : Layer} {given : Time → Option Nat}

theorem tells_nil : Tells [] fun _ => none :=
  ⟨fun _ there => absurd there List.not_mem_nil, fun _ => rfl⟩

/-- What a layer says is what its entries say, if they do not contradict each other. -/
theorem tells_of_agree (plain : ∀ entry ∈ layer, IsPlain entry)
    (agree : ∀ x n, given x = some n ↔ ∃ entry ∈ layer, saidBy x entry = some n) :
    layer.Tells given := by
  refine ⟨plain, ?_⟩
  intro x
  cases said : saidIn layer x with
  | none =>
      cases expected : given x with
      | none => rfl
      | some n =>
          obtain ⟨entry, there, tells⟩ := (agree x n).mp expected
          have silent := List.findSome?_eq_none_iff.mp said entry (List.mem_reverse.mpr there)
          rw [tells] at silent
          cases silent
  | some n =>
      obtain ⟨entry, there, tells⟩ := List.exists_of_findSome?_eq_some said
      exact ((agree x n).mpr ⟨entry, List.mem_reverse.mp there, tells⟩).symm

/-- Whether a table says nothing but the given numbers about the times that are in it. -/
def Agrees (given : Time → Option Nat) (x : Time) (entries : List (String × Setting)) : Prop :=
  ∀ name s, (name, s) ∈ entries → Text.lower name = x.name →
    ∃ origin, ∃ n : Nat, s = .scalar origin (.integer n) ∧ given x = some n

/-- Tables say the numbers that they hold. -/
theorem tells_of_tables
    (tables : ∀ key s, (key, s) ∈ layer → (∀ x : Time, x.IsApart (keyPath key)) ∨
      keyPath key = [.name key] ∧ ∃ origin entries, s = .table origin entries ∧
        ∀ x : Time, Text.lower key = x.table → Agrees given x entries)
    (complete : ∀ (x : Time) n, given x = some n → ∃ key origin entries name s,
      (key, .table origin entries) ∈ layer ∧ Text.lower key = x.table ∧ (name, s) ∈ entries ∧
        Text.lower name = x.name) : layer.Tells given := by
  have last {x : Time} {entries : List (String × Setting)} {s : Setting} (agrees : Agrees given x entries)
      (found : Setting.lastOf x.name entries = some s) : s.number? = given x := by
    obtain ⟨name, there, same⟩ := Setting.lastOf_eq_some found
    obtain ⟨origin, n, rfl, expected⟩ := agrees name s there same
    rw [expected]
    rfl
  apply tells_of_agree
  · rintro ⟨key, s⟩ there
    rcases tables key s there with apart | ⟨path, origin, entries, rfl, agrees⟩
    · exact .apart apart
    · refine .table path ?_
      intro x here name v inside same
      obtain ⟨origin, n, value, -⟩ := agrees x here name v inside same
      exact ⟨origin, n, value⟩
  · intro x n
    constructor
    · intro expected
      obtain ⟨key, origin, entries, name, v, there, here, inside, same⟩ := complete x n expected
      refine ⟨_, there, ?_⟩
      rcases tables key _ there with apart | ⟨path, _, _, ⟨⟩, agrees⟩
      · have own := apart x
        rw [keyPath_of_lower here] at own
        exact absurd here own
      · simp only [saidBy, path, if_pos here]
        cases found : Setting.lastOf x.name entries with
        | none => exact absurd same (Setting.lastOf_eq_none.mp found name v inside)
        | some s => exact (last (agrees x here) found).trans expected
    · rintro ⟨⟨key, s⟩, there, tells⟩
      rcases tables key s there with apart | ⟨path, origin, entries, rfl, agrees⟩
      · rw [saidBy_apart (apart x)] at tells
        cases tells
      · simp only [saidBy, path] at tells
        split at tells
        · rename_i here
          obtain ⟨s, found, number⟩ := Option.bind_eq_some_iff.mp tells
          rw [← last (agrees x here) found, number]
        · cases tells

end Layer

/-! ## The values that hold so far -/

/-- The layer of settings whose times a layer can hold. -/
def currentLayer (h : Config.Harness) : Layer :=
  [times "cluster" [.startup, .shutdown], times "application" [.awaitStopped],
    times "topology" [.check, .poll]]
where
  times (table : String) (xs : List Time) : String × Setting :=
    (table, .table none (xs.map fun x => (x.name, .scalar none (.integer (x.of h).toNat))))

/-- The first time that a layer cannot hold. -/
def excess? (h : Config.Harness) : Option Time := Time.all.find? fun x => Text.maxI64 < (x.of h).toNat

theorem excess?_eq_none {h : Config.Harness} :
    excess? h = none ↔ ∀ x : Time, (x.of h).toNat ≤ Text.maxI64 := by
  rw [excess?, List.find?_eq_none]
  constructor
  · intro missing x
    have there : x ∈ Time.all := by cases x <;> decide
    simpa using missing x there
  · intro fits x _
    simpa using fits x

theorem timeEntry_bind {α : Type} {name : String} {value : UInt64} {f : String × Setting → Except Fault α} :
    (timeEntry name value >>= f) =
      if Text.maxI64 < value.toNat then .error (.aboveLimit value.toNat)
      else f (name, .scalar none (.integer value.toNat)) := by
  unfold timeEntry
  by_cases fits : value.toNat ≤ Text.maxI64
  · rw [if_pos fits, if_neg (Nat.not_lt.mpr fits)]
    rfl
  · rw [if_neg fits, if_pos (Nat.not_le.mp fits)]
    rfl

theorem elim_find?_cons {α β : Type} (p : α → Prop) [DecidablePred p] (x : α) (rest : List α) (b : β)
    (f : α → β) : ((x :: rest).find? fun y => p y).elim b f =
      if p x then f x else (rest.find? fun y => p y).elim b f := by
  rw [List.find?_cons]
  by_cases holds : p x
  · simp only [decide_eq_true holds, if_pos holds, Option.elim_some]
  · simp only [decide_eq_false holds, if_neg holds]

/-- The times are checked in their order, and the first one that a layer cannot hold is refused. -/
theorem ofCurrent_eq (h : Config.Harness) : ofCurrent h =
    (excess? h).elim (.ok (currentLayer h)) fun x => .error (.aboveLimit (x.of h).toNat) := by
  simp only [ofCurrent, timeEntry_bind, excess?, Time.all,
    elim_find?_cons fun x : Time => Text.maxI64 < (x.of h).toNat]
  rfl

/-- Such a layer says every time. -/
theorem currentLayer_tells (h : Config.Harness) : (currentLayer h).Tells fun x => some (x.of h).toNat := by
  have agrees (x : Time) (xs : List Time) (sorted : ∀ y ∈ xs, y.table = x.table) :
      Layer.Agrees (fun x => some (x.of h).toNat) x
        (xs.map fun y => (y.name, .scalar none (.integer (y.of h).toNat))) := by
    intro name s there same
    obtain ⟨y, inside, ⟨⟩⟩ := List.mem_map.mp there
    rw [Time.lower_name] at same
    obtain rfl := Time.place_injective (sorted y inside) same
    exact ⟨none, _, rfl, rfl⟩
  have table (y : Time) (xs : List Time) (sorted : ∀ z ∈ xs, z.table = y.table) :
      keyPath y.table = [.name y.table] ∧ ∃ origin entries, (currentLayer.times h y.table xs).2 = .table origin entries ∧
        ∀ x : Time, Text.lower y.table = x.table → Layer.Agrees (fun x => some (x.of h).toNat) x entries := by
    refine ⟨keyPath_of_lower y.lower_table, none, _, rfl, ?_⟩
    intro x here
    rw [Time.lower_table] at here
    exact agrees x xs (here ▸ sorted)
  apply Layer.tells_of_tables
  · intro key s there
    right
    simp only [currentLayer, List.mem_cons, List.not_mem_nil, or_false] at there
    rcases there with there | there | there
    all_goals cases there
    · exact table .startup [.startup, .shutdown] (by decide)
    · exact table .awaitStopped [.awaitStopped] (by decide)
    · exact table .check [.check, .poll] (by decide)
  · intro x n _
    have there : ∃ xs, x ∈ xs ∧ currentLayer.times h x.table xs ∈ currentLayer h := by
      cases x
      · exact ⟨[.startup, .shutdown], by decide, by simp [currentLayer, Time.table]⟩
      · exact ⟨[.startup, .shutdown], by decide, by simp [currentLayer, Time.table]⟩
      · exact ⟨[.awaitStopped], by decide, by simp [currentLayer, Time.table]⟩
      · exact ⟨[.check, .poll], by decide, by simp [currentLayer, Time.table]⟩
      · exact ⟨[.check, .poll], by decide, by simp [currentLayer, Time.table]⟩
    obtain ⟨xs, inside, there⟩ := there
    exact ⟨_, _, _, _, _, there, x.lower_table, List.mem_map.mpr ⟨x, inside, rfl⟩, x.lower_name⟩

end ClusterHarness.Settings
