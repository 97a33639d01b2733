import ClusterHarness.Config.Harness
import ClusterHarness.Proofs.Settings.Tree

/-! # The times of the harness in merged settings

Every time of the harness has a place in the tree of settings: a table of the root, and a name in it. An
entry of a layer says something about such a place, or it is apart from all of them. What a layer says
takes precedence over what was there.
-/

namespace ClusterHarness.Settings

/-- A time that the settings of the harness hold, in the order in which they are written. -/
inductive Time where
  | startup
  | shutdown
  | awaitStopped
  | check
  | poll
  deriving Repr, DecidableEq

namespace Time

def all : List Time := [.startup, .shutdown, .awaitStopped, .check, .poll]

def of : Time → Config.Harness → UInt64
  | .startup, h => h.cluster.startupTimeout
  | .shutdown, h => h.cluster.shutdownTimeout
  | .awaitStopped, h => h.application.awaitStoppedTimeout
  | .check, h => h.topology.checkTimeout
  | .poll, h => h.topology.pollInterval

/-- The table that a time is in. -/
def table : Time → String
  | .startup | .shutdown => "cluster"
  | .awaitStopped => "application"
  | .check | .poll => "topology"

/-- The name of a time in its table. -/
def name : Time → String
  | .startup => "startup_timeout_in_ms"
  | .shutdown => "shutdown_timeout_in_ms"
  | .awaitStopped => "await_stopped_timeout_in_ms"
  | .check => "check_timeout_in_ms"
  | .poll => "poll_interval_in_ms"

theorem place_injective {x y : Time} (table : x.table = y.table) (name : x.name = y.name) : x = y := by
  cases x <;> cases y <;> first | rfl | simp [Time.table, Time.name] at table name

theorem of_injective {h h' : Config.Harness} (same : ∀ x : Time, x.of h = x.of h') : h = h' := by
  obtain ⟨⟨startup, shutdown⟩, ⟨awaitStopped⟩, ⟨check, poll⟩⟩ := h
  obtain ⟨⟨startup', shutdown'⟩, ⟨awaitStopped'⟩, ⟨check', poll'⟩⟩ := h'
  obtain rfl : startup = startup' := same .startup
  obtain rfl : shutdown = shutdown' := same .shutdown
  obtain rfl : awaitStopped = awaitStopped' := same .awaitStopped
  obtain rfl : check = check' := same .check
  obtain rfl : poll = poll' := same .poll
  rfl

/-- What is found at the place of a time. -/
def at? (x : Time) (t : Setting) : Option Setting := (t.find? x.table).bind (Setting.find? x.name)

/-- Whether a path is apart from the place of a time: it neither leads there nor on the way there. -/
def IsApart (x : Time) : List PathStep → Prop
  | .name a :: .name b :: _ => Text.lower a ≠ x.table ∨ Text.lower b ≠ x.name
  | .name a :: _ => Text.lower a ≠ x.table
  | _ => False

end Time

/-- A natural number as a setting, which is missing if there is no number. -/
inductive IsNumber : Option Setting → Option Nat → Prop
  | missing : IsNumber none none
  | given (origin : Option String) (n : Nat) :
      IsNumber (some (.scalar origin (.integer n))) (some n)

/-- The natural number that a setting is. -/
def Setting.number? : Setting → Option Nat
  | .scalar _ (.integer n) => if 0 ≤ n then some n.toNat else none
  | _ => none

/-- What a tree holds at the places of the times. -/
structure Holds (t : Setting) (values : Time → Option Nat) : Prop where
  orderly : t.IsOrderly
  tables : ∀ (x : Time) s, t.find? x.table = some s → s.IsOrderly
  numbers : ∀ x : Time, IsNumber (x.at? t) (values x)

theorem holds_empty : Holds .empty fun _ => none := by
  refine ⟨Setting.isOrderly_empty, ?_, ?_⟩
  · intro x s found
    cases found
  · intro x
    exact .missing

/-- What an entry of a layer says about a time. -/
def saidBy (x : Time) (entry : String × Setting) : Option Nat :=
  match keyPath entry.1, entry.2 with
  | [.name a], .table _ es =>
    if Text.lower a = x.table then (Setting.lastOf x.name es).bind Setting.number? else none
  | [.name a, .name b], value =>
    if Text.lower a = x.table ∧ Text.lower b = x.name then value.number? else none
  | _, _ => none

/-- What a layer says about a time: what the last entry says that says anything. -/
def saidIn (layer : Layer) (x : Time) : Option Nat := layer.reverse.findSome? (saidBy x)

/-- An entry that says nothing but numbers about the times. -/
inductive IsPlain : String × Setting → Prop
  | apart {key : String} {s : Setting} (apart : ∀ x : Time, x.IsApart (keyPath key)) : IsPlain (key, s)
  | dotted {key a b : String} {origin : Option String} {n : Nat}
      (path : keyPath key = [.name a, .name b]) : IsPlain (key, .scalar origin (.integer n))
  | table {key a : String} {origin : Option String} {entries : List (String × Setting)}
      (path : keyPath key = [.name a])
      (numbers : ∀ x : Time, Text.lower a = x.table → ∀ name s, (name, s) ∈ entries →
        Text.lower name = x.name → ∃ origin, ∃ n : Nat, s = .scalar origin (.integer n)) :
      IsPlain (key, .table origin entries)

/-- Whether a layer says the given numbers about the times, and nothing else. -/
structure Layer.Tells (layer : Layer) (given : Time → Option Nat) : Prop where
  plain : ∀ entry ∈ layer, IsPlain entry
  said : ∀ x, saidIn layer x = given x

theorem saidBy_apart {x : Time} {key : String} (apart : x.IsApart (keyPath key)) (s : Setting) :
    saidBy x (key, s) = none := by
  unfold saidBy
  dsimp only
  split
  · rename_i path
    rw [path] at apart
    exact if_neg apart
  · rename_i a b path
    rw [path] at apart
    exact if_neg fun both => apart.elim (· both.1) (· both.2)
  · rfl

namespace Holds

variable {t : Setting} {values : Time → Option Nat}

/-- A change of one table of the root that keeps it orderly. -/
theorem change (holds : Holds t values) {name : String} {f : Setting → Setting}
    {values' : Time → Option Nat}
    (inside : ∀ x : Time, x.table = name → ∀ target : Setting, target.IsOrderly →
      IsNumber (target.find? x.name) (values x) →
        (f target).IsOrderly ∧ IsNumber ((f target).find? x.name) (values' x))
    (outside : ∀ x : Time, x.table ≠ name → values' x = values x) : Holds (t.change name f) values' := by
  have target (x : Time) (here : x.table = name) :
      ((t.find? name).getD .empty).IsOrderly ∧
        IsNumber (((t.find? name).getD .empty).find? x.name) (values x) := by
    have number := holds.numbers x
    rw [Time.at?, here] at number
    cases found : t.find? name with
    | none =>
        rw [found] at number
        exact ⟨Setting.isOrderly_empty, number⟩
    | some s =>
        rw [found] at number
        exact ⟨holds.tables x s (here ▸ found), number⟩
  refine ⟨Setting.isOrderly_change holds.orderly, ?_, ?_⟩
  · intro x s found
    rw [Setting.find?_change] at found
    split at found
    · rename_i here
      cases found
      exact (inside x here _ (target x here).1 (target x here).2).1
    · exact holds.tables x s found
  · intro x
    rw [Time.at?, Setting.find?_change]
    split
    · rename_i here
      exact (inside x here _ (target x here).1 (target x here).2).2
    · rename_i there
      rw [outside x there]
      exact holds.numbers x

/-- Below the root, a value that is merged along a path changes the entry of the first name. -/
theorem mergeAt_name (target value : Setting) (b : String) (rest : List PathStep) :
    ∃ f, target.mergeAt value (.name b :: rest) = target.change (Text.lower b) f := by
  cases rest with
  | nil => exact ⟨value.upon, Setting.merge_eq target b value⟩
  | cons step rest => exact ⟨_, rfl⟩

/-- A value that is merged apart from the times leaves them as they are. -/
theorem mergeAt_apart (holds : Holds t values) {path : List PathStep}
    (apart : ∀ x : Time, x.IsApart path) (s : Setting) : Holds (t.mergeAt s path) values := by
  match path, apart with
  | [], apart => exact (apart .startup).elim
  | .position _ :: _, apart => exact (apart .startup).elim
  | [.name a], apart =>
      have change : t.mergeAt s [.name a] = t.change (Text.lower a) s.upon := Setting.merge_eq t a s
      rw [change]
      exact holds.change (fun x here => absurd here.symm (apart x)) fun _ _ => rfl
  | .name a :: .position i :: rest, apart =>
      exact holds.change (fun x here => absurd here.symm (apart x)) fun _ _ => rfl
  | .name a :: .name b :: rest, apart =>
      refine holds.change ?_ fun _ _ => rfl
      intro x here target orderly number
      obtain ⟨f, change⟩ := mergeAt_name target s b rest
      have other : x.name ≠ Text.lower b := Ne.symm ((apart x).resolve_left (not_not_intro here.symm))
      rw [change, Setting.find?_change, if_neg other]
      exact ⟨Setting.isOrderly_change orderly, number⟩

/-- A number at a path of two names is found at the place of the time that the path leads to. -/
theorem mergeAt_number (holds : Holds t values) (a b : String) (origin : Option String) (n : Nat) :
    Holds (t.mergeAt (.scalar origin (.integer n)) [.name a, .name b]) fun x =>
      (if Text.lower a = x.table ∧ Text.lower b = x.name then some n else none).or (values x) := by
  refine holds.change ?_ ?_
  · intro x here target orderly number
    rw [Setting.mergeAt, Setting.merge_eq, Setting.find?_change]
    refine ⟨Setting.isOrderly_change orderly, ?_⟩
    by_cases named : x.name = Text.lower b
    · rw [if_pos named, if_pos ⟨here.symm, named.symm⟩]
      exact .given origin n
    · rw [if_neg named, if_neg fun both => named both.2.symm]
      exact number
  · intro x there
    rw [if_neg fun both => there both.1.symm]
    rfl

/-- The numbers of a table are found at the places of the times that are in it. -/
theorem mergeAt_table (holds : Holds t values) (a : String) (origin : Option String)
    {entries : List (String × Setting)}
    (numbers : ∀ x : Time, Text.lower a = x.table → ∀ name s, (name, s) ∈ entries →
      Text.lower name = x.name → ∃ origin, ∃ n : Nat, s = .scalar origin (.integer n)) :
    Holds (t.mergeAt (.table origin entries) [.name a]) fun x =>
      (if Text.lower a = x.table then (Setting.lastOf x.name entries).bind Setting.number?
        else none).or (values x) := by
  rw [Setting.mergeAt, Setting.merge_eq]
  refine holds.change ?_ ?_
  · intro x here target orderly number
    refine ⟨Setting.isOrderly_mergeAll orderly, ?_⟩
    have scalar : ∀ key value, (key, value) ∈ entries → Text.lower key = x.name →
        ∀ target, value.upon target = value := by
      intro key value there same target
      obtain ⟨origin, n, rfl⟩ := numbers x here.symm key value there same
      rfl
    rw [if_pos here.symm, Setting.upon, Setting.find?_mergeAll scalar]
    cases last : Setting.lastOf x.name entries with
    | none => exact number
    | some s =>
        obtain ⟨key, there, same⟩ := Setting.lastOf_eq_some last
        obtain ⟨origin, n, rfl⟩ := numbers x here.symm key s there same
        exact .given origin n
  · intro x there
    rw [if_neg (Ne.symm there)]
    rfl

/-- What an entry says takes precedence over what the tree holds. -/
theorem mergeAt {key : String} {s : Setting} (holds : Holds t values) (plain : IsPlain (key, s)) :
    Holds (t.mergeAt s (keyPath key)) fun x => (saidBy x (key, s)).or (values x) := by
  cases plain with
  | apart apart =>
      simp only [saidBy_apart (apart _), Option.none_or]
      exact holds.mergeAt_apart apart s
  | dotted path =>
      simp only [saidBy, path]
      exact holds.mergeAt_number ..
  | table path numbers =>
      simp only [saidBy, path]
      exact holds.mergeAt_table _ _ numbers

/-- What the entries of a layer say takes precedence over what the tree holds. -/
theorem afterEntries {layer : Layer} (holds : Holds t values) (plain : ∀ entry ∈ layer, IsPlain entry) :
    Holds (applyLayer t layer) fun x => (saidIn layer x).or (values x) := by
  induction layer generalizing t values with
  | nil => exact holds
  | cons entry rest ih =>
      have first := holds.mergeAt (plain entry List.mem_cons_self)
      have all := ih first fun e there => plain e (List.mem_cons_of_mem _ there)
      have said (x : Time) : (saidIn (entry :: rest) x).or (values x) =
          (saidIn rest x).or ((saidBy x entry).or (values x)) := by
        rw [saidIn, List.reverse_cons, List.findSome?_append, List.findSome?_singleton, Option.or_assoc]
        rfl
      simp only [said]
      exact all

/-- What a layer says takes precedence over what the tree holds. -/
theorem afterLayer {layer : Layer} {given : Time → Option Nat} (holds : Holds t values)
    (tells : layer.Tells given) : Holds (applyLayer t layer) fun x => (given x).or (values x) := by
  have applied := holds.afterEntries tells.plain
  simp only [tells.said] at applied
  exact applied

end Holds

end ClusterHarness.Settings
