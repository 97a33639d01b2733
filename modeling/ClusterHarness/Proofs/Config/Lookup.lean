import ClusterHarness.Proofs.Config.Validity
import Mathlib.Data.Set.Card

/-! # Regions by name

The check of a storage finds every name that two of its regions share, the default one included. So in a
storage that passes each region is found under its own name, and nothing is found under any other.
-/

namespace ClusterHarness.Config.Storage

variable {s : Storage} {r : Region} {name : String} {regions : List Region}

theorem validate_iff : s.validate = .ok () ↔ s.IsSound := s.judged.ok_iff.trans s.rules_hold

theorem region?_eq_none_iff : s.region? name = none ↔ ∀ r ∈ s.allRegions, r.name ≠ name := by
  simp [region?]

/-- As no two regions share a name, none hides another. -/
theorem region?_eq_some_iff (distinct : (s.allRegions.map Region.name).Nodup) :
    s.region? name = some r ↔ r ∈ s.allRegions ∧ r.name = name := by
  constructor
  · intro found
    exact ⟨List.mem_of_find?_eq_some found, by simpa using List.find?_some found⟩
  · rintro ⟨there, rfl⟩
    cases found : s.region? r.name with
    | none => exact absurd rfl (region?_eq_none_iff.mp found r there)
    | some other =>
        have among : other ∈ s.allRegions := List.mem_of_find?_eq_some found
        have same : other.name = r.name := by simpa using List.find?_some found
        rw [List.inj_on_of_nodup_map distinct among there same]

theorem isSome_region?_iff : (s.region? name).isSome ↔ name ∈ s.allRegions.map Region.name := by
  rw [Option.isSome_iff_ne_none, ne_eq, region?_eq_none_iff]
  simp [List.mem_map]

theorem allRegions_perm (order : regions.Perm s.regions) :
    ({ s with regions } : Storage).allRegions.Perm s.allRegions := order.cons s.defaultRegion

theorem IsSound.reorder (sound : s.IsSound) (order : regions.Perm s.regions) :
    ({ s with regions } : Storage).IsSound :=
  { sound with
    regions := fun r there => sound.regions r ((allRegions_perm order).mem_iff.mp there)
    distinct := ((allRegions_perm order).map Region.name).nodup_iff.mpr sound.distinct }

theorem region?_reorder (distinct : (s.allRegions.map Region.name).Nodup)
    (order : regions.Perm s.regions) :
    ({ s with regions } : Storage).region? name = s.region? name := by
  have kept := ((allRegions_perm order).map Region.name).nodup_iff.mpr distinct
  ext r
  rw [region?_eq_some_iff kept, region?_eq_some_iff distinct, (allRegions_perm order).mem_iff]

/-- Names and regions of a valid storage belong together, one to one, in whatever order the additional
regions stand. -/
theorem regions_are_found_by_name (valid : s.validate = .ok ()) :
    (∀ r ∈ s.allRegions, s.region? r.name = some r) ∧
    (∀ name, (∀ r ∈ s.allRegions, r.name ≠ name) → s.region? name = none) ∧
    (∀ name r, s.region? name = some r → r ∈ s.allRegions ∧ r.name = name) ∧
    {name | (s.region? name).isSome}.ncard = s.regions.length + 1 ∧
    ∀ regions : List Region, regions.Perm s.regions →
      ({ s with regions } : Storage).validate = .ok () ∧
        ∀ name, ({ s with regions } : Storage).region? name = s.region? name := by
  have sound := validate_iff.mp valid
  have found {name : String} {r : Region} :
      s.region? name = some r ↔ r ∈ s.allRegions ∧ r.name = name := region?_eq_some_iff sound.distinct
  refine ⟨fun r there => found.mpr ⟨there, rfl⟩, fun _ => region?_eq_none_iff.mpr, fun _ _ => found.mp,
    ?_, fun regions order => ⟨validate_iff.mpr (sound.reorder order), fun _ =>
      region?_reorder sound.distinct order⟩⟩
  have names : {name | (s.region? name).isSome} = ↑(s.allRegions.map Region.name).toFinset := by
    ext name
    simp [isSome_region?_iff]
  rw [names, Set.ncard_coe_finset, List.toFinset_card_of_nodup sound.distinct, List.length_map]
  rfl

theorem regions_are_found_by_name_three :
    let cold : Region := { name := "cold" }
    let s : Storage := { regions := [{ name := "hot" }, cold] }
    s.validate = .ok () ∧ s.region? "cold" = some cold ∧ s.region? "warm" = none ∧
      ({ s with regions := s.regions.reverse } : Storage).region? "cold" = some cold := by
  intro cold s
  have valid : s.validate = .ok () := by decide +kernel
  obtain ⟨own, other, -, -, orders⟩ := regions_are_found_by_name valid
  have last : s.region? "cold" = some cold := own cold (by decide +kernel)
  exact ⟨valid, last, other "warm" (by decide +kernel),
    ((orders _ s.regions.reverse_perm).2 "cold").trans last⟩

end ClusterHarness.Config.Storage
