import ClusterHarness.Proofs.Schema.Conversion
import ClusterHarness.Proofs.Settings.Times

/-! # Harness settings from merged settings

The settings that a tree is converted to have the times that the tree holds, and the default where it
holds none.
-/

namespace ClusterHarness.Config

open Schema Settings

/-- Every field of a record is that of a time in a table. -/
def HasTimes (table : String) {β : Type} (record : Record β) : Prop :=
  ∀ field ∈ record.fields, ∃ (x : Time) (get : β → UInt64) (set : UInt64 → β → β),
    x.table = table ∧ field = .plain x.name .uint64 get set

theorem ClusterBounds.sets_startup :
    record.Sets "startup_timeout_in_ms" .uint64 startupTimeout :=
  Record.sets_plain [] [_] rfl (fun _ _ => rfl)
    (List.forall_mem_singleton.mpr ⟨by decide, Field.plain_spares fun _ _ => rfl⟩)

theorem ClusterBounds.sets_shutdown :
    record.Sets "shutdown_timeout_in_ms" .uint64 shutdownTimeout :=
  Record.sets_plain [_] [] rfl (fun _ _ => rfl)
    (List.forall_mem_singleton.mpr ⟨by decide, Field.plain_spares fun _ _ => rfl⟩)

theorem ClusterBounds.hasTimes : HasTimes "cluster" record := by
  intro field member
  simp only [record, List.mem_cons, List.not_mem_nil, or_false] at member
  rcases member with rfl | rfl
  · exact ⟨.startup, _, _, rfl, rfl⟩
  · exact ⟨.shutdown, _, _, rfl, rfl⟩

theorem ApplicationBounds.sets_awaitStopped :
    record.Sets "await_stopped_timeout_in_ms" .uint64 awaitStoppedTimeout :=
  Record.sets_plain [] [] rfl (fun _ _ => rfl) (List.forall_mem_nil _)

theorem ApplicationBounds.hasTimes : HasTimes "application" record := by
  intro field member
  simp only [record, List.mem_cons, List.not_mem_nil, or_false] at member
  obtain rfl := member
  exact ⟨.awaitStopped, _, _, rfl, rfl⟩

theorem TopologyCheck.sets_check : record.Sets "check_timeout_in_ms" .uint64 checkTimeout :=
  Record.sets_plain [] [_] rfl (fun _ _ => rfl)
    (List.forall_mem_singleton.mpr ⟨by decide, Field.plain_spares fun _ _ => rfl⟩)

theorem TopologyCheck.sets_poll : record.Sets "poll_interval_in_ms" .uint64 pollInterval :=
  Record.sets_plain [_] [] rfl (fun _ _ => rfl)
    (List.forall_mem_singleton.mpr ⟨by decide, Field.plain_spares fun _ _ => rfl⟩)

theorem TopologyCheck.hasTimes : HasTimes "topology" record := by
  intro field member
  simp only [record, List.mem_cons, List.not_mem_nil, or_false] at member
  rcases member with rfl | rfl
  · exact ⟨.check, _, _, rfl, rfl⟩
  · exact ⟨.poll, _, _, rfl, rfl⟩

namespace Harness

theorem sets_cluster : record.Sets "cluster" ClusterBounds.codec cluster :=
  Record.sets_plain [] [_, _] rfl (fun _ _ => rfl) (List.forall_mem_cons.mpr
    ⟨⟨by decide, Field.plain_spares fun _ _ => rfl⟩,
      List.forall_mem_singleton.mpr ⟨by decide, Field.plain_spares fun _ _ => rfl⟩⟩)

theorem sets_application : record.Sets "application" ApplicationBounds.codec application :=
  Record.sets_plain [_] [_] rfl (fun _ _ => rfl) (List.forall_mem_cons.mpr
    ⟨⟨by decide, Field.plain_spares fun _ _ => rfl⟩,
      List.forall_mem_singleton.mpr ⟨by decide, Field.plain_spares fun _ _ => rfl⟩⟩)

theorem sets_topology : record.Sets "topology" TopologyCheck.codec topology :=
  Record.sets_plain [_, _] [] rfl (fun _ _ => rfl) (List.forall_mem_cons.mpr
    ⟨⟨by decide, Field.plain_spares fun _ _ => rfl⟩,
      List.forall_mem_singleton.mpr ⟨by decide, Field.plain_spares fun _ _ => rfl⟩⟩)

end Harness

end ClusterHarness.Config

namespace ClusterHarness.Settings

open Schema Config

theorem uint64_convert_number {s : Setting} {n : Nat} (number : IsNumber (some s) (some n)) :
    Codec.uint64.convert s = .ok (UInt64.ofNat n) := by
  cases number
  simp only [Codec.uint64, Setting.toUnsigned, if_pos (Int.natCast_nonneg n)]
  rfl

namespace Holds

variable {t s : Setting} {values : Time → Option Nat} {β : Type} {record : Record β}

theorem missing (holds : Holds t values) {x : Time} (h : x.at? t = none) : values x = none := by
  have number := holds.numbers x
  rw [h] at number
  generalize values x = value at number
  cases number
  rfl

/-- What stands at the place of a time, in a table that is there. -/
theorem number_of_mem (holds : Holds t values) {x : Time} {origin : Option String}
    {entries : List (String × Setting)} (there : t.find? x.table = some (.table origin entries))
    (nodup : (entries.map Prod.fst).Nodup) (member : (x.name, s) ∈ entries) :
    ∃ n, values x = some n ∧ IsNumber (some s) (some n) := by
  have number := holds.numbers x
  rw [Time.at?, there, Option.bind_some, Setting.find?, Setting.lookup_of_mem nodup member] at number
  generalize values x = value at number
  cases number with
  | given origin n => exact ⟨n, rfl, .given origin n⟩

/-- A table that holds numbers at the places of its times is converted. -/
theorem convert_table (holds : Holds t values) {table : String} (there : t.find? table = some s)
    (orderly : s.IsOrderly) (times : HasTimes table record) : ∃ b, record.codec.convert s = .ok b := by
  obtain ⟨origin, entries, rfl, nodup⟩ := orderly
  refine Record.convertEntries_ok ?_ record.start
  intro field member v inside b
  obtain ⟨x, get, set, rfl, rfl⟩ := times field member
  obtain ⟨n, -, number⟩ := holds.number_of_mem there nodup inside
  exact ⟨_, Field.plain_convert (uint64_convert_number number)⟩

/-- The part of a record that is found at the place of a time. -/
theorem convert_part (holds : Holds t values) {x : Time} {get : Harness → β} {part : β → UInt64}
    (whole : Harness.record.Sets x.table record.codec get)
    (own : record.Sets x.name .uint64 part) (start : get .default = record.start)
    {h : Harness} (converted : Harness.codec.convert t = .ok h) :
    part (get h) = UInt64.ofNat ((values x).getD (part (get .default)).toNat) := by
  obtain ⟨origin, entries, rfl, nodup⟩ := holds.orderly
  cases found : entries.lookup x.table with
  | none =>
      rw [whole.kept_all (Setting.not_mem_of_lookup found) converted,
        holds.missing (by rw [Time.at?, Setting.find?, found]; rfl)]
      exact UInt64.ofNat_toNat.symm
  | some s =>
      obtain ⟨origin', inner, rfl, nodup'⟩ := holds.tables x s found
      have inside := whole.own_of_mem nodup (Setting.mem_of_lookup found) converted
      cases named : inner.lookup x.name with
      | none =>
          rw [own.kept_all (Setting.not_mem_of_lookup named) inside, ← start,
            holds.missing (by rw [Time.at?, Setting.find?, found]; exact named)]
          exact UInt64.ofNat_toNat.symm
      | some v =>
          have member := Setting.mem_of_lookup named
          obtain ⟨n, value, number⟩ := holds.number_of_mem found nodup' member
          have set := own.own_of_mem nodup' member inside
          rw [uint64_convert_number number] at set
          rw [value]
          exact (Except.ok.inj set).symm

/-- The settings that a tree is converted to have the times that it holds, and the default where it holds
none. -/
theorem convert (holds : Holds t values) : ∃ h, Harness.codec.convert t = .ok h ∧
    ∀ x : Time, x.of h = UInt64.ofNat ((values x).getD (x.of .default).toNat) := by
  have whole : ∃ h, Harness.codec.convert t = .ok h := by
    obtain ⟨origin, entries, rfl, nodup⟩ := holds.orderly
    refine Record.convertEntries_ok ?_ Harness.record.start
    intro field member s inside h
    have there := Setting.lookup_of_mem nodup inside
    simp only [Harness.record, List.mem_cons, List.not_mem_nil, or_false] at member
    rcases member with rfl | rfl | rfl
    · obtain ⟨b, converted⟩ :=
        holds.convert_table there (holds.tables .startup s there) ClusterBounds.hasTimes
      exact ⟨_, Field.plain_convert converted⟩
    · obtain ⟨b, converted⟩ :=
        holds.convert_table there (holds.tables .awaitStopped s there) ApplicationBounds.hasTimes
      exact ⟨_, Field.plain_convert converted⟩
    · obtain ⟨b, converted⟩ :=
        holds.convert_table there (holds.tables .check s there) TopologyCheck.hasTimes
      exact ⟨_, Field.plain_convert converted⟩
  obtain ⟨h, converted⟩ := whole
  refine ⟨h, converted, ?_⟩
  intro x
  cases x with
  | startup =>
      exact holds.convert_part (x := .startup) Harness.sets_cluster ClusterBounds.sets_startup rfl converted
  | shutdown =>
      exact holds.convert_part (x := .shutdown) Harness.sets_cluster ClusterBounds.sets_shutdown rfl converted
  | awaitStopped =>
      exact holds.convert_part (x := .awaitStopped) Harness.sets_application
        ApplicationBounds.sets_awaitStopped rfl converted
  | check =>
      exact holds.convert_part (x := .check) Harness.sets_topology TopologyCheck.sets_check rfl converted
  | poll =>
      exact holds.convert_part (x := .poll) Harness.sets_topology TopologyCheck.sets_poll rfl converted

end Holds

end ClusterHarness.Settings
