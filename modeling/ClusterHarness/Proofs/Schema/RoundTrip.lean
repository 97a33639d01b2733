import ClusterHarness.Proofs.Json.Pretty
import ClusterHarness.Schema.Record
import ClusterHarness.Schema.Variant
import Mathlib.Data.List.Forall2

/-! # Decoding what was encoded

A codec keeps a value when it decodes what it writes for it, wherever that stands. A text has room for
so many nested containers only, so each codec tells how many it takes. A record keeps its fields when
each field does, because every field is found by its name and met once.
-/

namespace ClusterHarness.Schema

/-- Whether a source has room for so many nested containers. -/
def Source.Fits (depth : Nat) : Source → Prop
  | .value => True
  | .text room => depth ≤ room

theorem Source.Fits.enter {depth : Nat} {src : Source} (fits : src.Fits (depth + 1)) :
    ∃ inner, src.enter = .ok inner ∧ inner.Fits depth := by
  cases src with
  | value => exact ⟨.value, rfl, trivial⟩
  | text room =>
      cases room with
      | zero => exact absurd fits (Nat.not_succ_le_zero depth)
      | succ room => exact ⟨.text room, rfl, Nat.le_of_succ_le_succ fits⟩

namespace Codec

/-- What a codec writes for a value can be printed, and is decoded as that value. -/
structure Keeps (codec : Codec α) (depth : Nat) (a : α) : Prop where
  plain : (codec.encode a).isPlain = true
  back : ∀ src, src.Fits depth → codec.decode src (codec.encode a).reading = .ok a

theorem text_keeps (depth : Nat) (s : String) : text.Keeps depth s := ⟨rfl, fun _ _ => rfl⟩

theorem bool_keeps (depth : Nat) (b : Bool) : bool.Keeps depth b := ⟨rfl, fun _ _ => rfl⟩

theorem decodeInteger_of_le (name : String) {low high n : Int} (bottom : low ≤ n) (top : n ≤ high) :
    decodeInteger name low high (.number (.integer n)) = .ok n := by
  simp [decodeInteger, bottom, top]

theorem int32_keeps (depth : Nat) (n : Int32) : int32.Keeps depth n := by
  have low : Int32.minValue.toInt ≤ n.toInt := n.minValue_le_toInt
  have high : n.toInt ≤ Int32.maxValue.toInt := n.toInt_le
  constructor
  · have bottom : -(Text.leastI64 : Int) ≤ Int32.minValue.toInt := by decide
    have top : Int32.maxValue.toInt ≤ (Text.maxU64 : Int) := by decide
    simp only [int32, Json.int, Json.isPlain, Json.Number.isPlain, Bool.and_eq_true,
      decide_eq_true_eq]
    exact ⟨Int.le_trans bottom low, Int.le_trans high top⟩
  · intro src _
    simp only [int32, Json.int, Json.reading, decodeInteger_of_le "i32" low high, bind, Except.bind,
      pure, Except.pure, Int32.ofInt_toInt]

/-- A codec of unsigned integers keeps those within its bound. -/
theorem keeps_of_toNat {codec : Codec α} {toNat : α → Nat} {ofNat : Nat → α} {name : String}
    {bound : Nat} (written : ∀ a, codec.encode a = .nat (toNat a))
    (decoded : ∀ src r, codec.decode src r = do return ofNat (← decodeInteger name 0 bound r).toNat)
    (small : bound ≤ Text.maxU64) {a : α} (fits : toNat a ≤ bound) (back : ofNat (toNat a) = a)
    (depth : Nat) : codec.Keeps depth a := by
  constructor
  · have bottom : -(Text.leastI64 : Int) ≤ 0 := by decide
    have top : (toNat a : Int) ≤ (Text.maxU64 : Int) := Int.ofNat_le.mpr (Nat.le_trans fits small)
    simp only [written, Json.nat, Json.isPlain, Json.Number.isPlain, Bool.and_eq_true,
      decide_eq_true_eq]
    exact ⟨Int.le_trans bottom (Int.natCast_nonneg _), top⟩
  · intro src _
    have inside := decodeInteger_of_le name (Int.natCast_nonneg (toNat a)) (Int.ofNat_le.mpr fits)
    simp only [written, Json.nat, Json.reading, decoded, inside, bind, Except.bind, pure, Except.pure,
      Int.toNat_natCast, back]

theorem uint64_keeps (depth : Nat) (n : UInt64) : uint64.Keeps depth n := by
  apply keeps_of_toNat (fun _ => rfl) (fun _ _ => rfl) (Nat.le_refl _) _ UInt64.ofNat_toNat
  exact Nat.le_pred_of_lt n.toNat_lt_size

theorem uint32_keeps (depth : Nat) (n : UInt32) : uint32.Keeps depth n := by
  apply keeps_of_toNat (fun _ => rfl) (fun _ _ => rfl) (by decide) _ UInt32.ofNat_toNat
  exact Nat.le_pred_of_lt n.toNat_lt_size

theorem uint16_keeps (depth : Nat) (n : UInt16) : uint16.Keeps depth n := by
  apply keeps_of_toNat (fun _ => rfl) (fun _ _ => rfl) (by decide) _ UInt16.ofNat_toNat
  exact Nat.le_pred_of_lt n.toNat_lt_size

theorem spelled_keeps {write : α → String} {read : String → Except String α} {a : α}
    (h : read (write a) = .ok a) (depth : Nat) : (spelled write read).Keeps depth a where
  plain := rfl
  back src _ := by
    simp only [spelled, Json.reading, text, bind, Except.bind, h]
    rfl

section

variable {item : Codec α} {depth : Nat} {as : List α}

theorem allPlain_map (h : ∀ a ∈ as, item.Keeps depth a) :
    Json.allPlain (as.map item.encode) = true := by
  induction as with
  | nil => rfl
  | cons a as ih =>
      rw [List.map_cons, Json.allPlain, Bool.and_eq_true]
      exact ⟨(h a (by simp)).plain, ih fun b hb => h b (by simp [hb])⟩

theorem decodeItems_map (h : ∀ a ∈ as, item.Keeps depth a) {src : Source} (fits : src.Fits depth) :
    decodeItems (item.decode src) (Json.itemReadings (as.map item.encode)) = .ok as := by
  induction as with
  | nil => rfl
  | cons a as ih =>
      rw [List.map_cons, Json.itemReadings, decodeItems, (h a (by simp)).back src fits,
        ih fun b hb => h b (by simp [hb])]
      rfl

theorem list_keeps (h : ∀ a ∈ as, item.Keeps depth a) : (list item).Keeps (depth + 1) as where
  plain := allPlain_map h
  back src fits := by
    obtain ⟨inner, enter, fits⟩ := fits.enter
    simp only [list, Json.reading, enter, bind, Except.bind, decodeItems_map h fits, if_true, pure,
      Except.pure]

theorem sorted_keeps {arrange : List α → List α} (h : ∀ a ∈ as, item.Keeps depth a)
    (ordered : arrange as = as) : (sorted item arrange).Keeps (depth + 1) as where
  plain := allPlain_map h
  back src fits := by
    have back : (list item).decode src ((sorted item arrange).encode as).reading = .ok as :=
      (list_keeps h).back src fits
    change (do return arrange (← (list item).decode src _)) = _
    rw [back]
    exact congrArg Except.ok ordered

end

end Codec

/-- An enumeration keeps every value that is found by its own name. -/
theorem Enumeration.codec_keeps {e : Enumeration α} {a : α} (found : e.ofLabel? (e.label a) = some a)
    (depth : Nat) : e.codec.Keeps depth a where
  plain := rfl
  back src _ := by
    have known : e.label a ∈ e.labels :=
      List.mem_map_of_mem (f := e.label) (List.mem_of_find?_eq_some found)
    simp only [codec, decode, Json.reading, tagged, knownName, if_pos known, ofLabel, found, Tagged.unit,
      Tagged.finish, bind, Except.bind, pure, Except.pure, if_true]

/-- An enumeration of objects keeps every value that is found by its own name. -/
theorem TaggedEnumeration.codec_keeps {e : TaggedEnumeration α} {a : α}
    (found : e.bare.ofLabel? (e.label a) = some a) (depth : Nat) : e.codec.Keeps (depth + 1) a where
  plain := rfl
  back src fits := by
    have known : e.label a ∈ e.bare.labels :=
      List.mem_map_of_mem (f := e.label) (List.mem_of_find?_eq_some found)
    obtain ⟨inner, enter, -⟩ := fits.enter
    simp only [codec, decode, Json.reading, Json.memberReadings, enter, decodeMembers, identifier,
      knownName, if_pos known, Enumeration.ofLabel, found, bind, Except.bind, pure, Except.pure,
      Option.isSome_none, Bool.false_eq_true, Bool.not_true, if_true, if_false]

/-- An object of one member names a variant, with its content beside it. -/
theorem tagged_object {known : List String} {name : String} (there : name ∈ known) (v : Json)
    {depth : Nat} {src : Source} (fits : src.Fits (depth + 1)) :
    ∃ inner, inner.Fits depth ∧ tagged known src (Json.object [(name, v)]).reading =
      .ok ⟨name, some v.reading, inner, true⟩ := by
  obtain ⟨inner, enter, room⟩ := fits.enter
  refine ⟨inner, room, ?_⟩
  cases src <;>
    simp [Json.reading, Json.memberReadings, tagged, enter, knownName, there, bind, Except.bind, pure,
      Except.pure]

/-! ## Records -/

namespace Field

@[simp] theorem plain_name (name : String) (codec : Codec α) (get : ρ → α) (set : α → ρ → ρ) :
    (plain name codec get set).name = name := rfl

@[simp] theorem optional_name (name : String) (codec : Codec α) (get : ρ → Option α)
    (set : Option α → ρ → ρ) : (optional name codec get set).name = name := rfl

@[simp] theorem listed_name (name : String) (codec : Codec (List α)) (get : ρ → List α)
    (set : List α → ρ → ρ) : (listed name codec get set).name = name := rfl

/-- Sets a field from what is written for it, if anything is. -/
def carry (field : Field ρ) (src : Source) (p r : ρ) : Except Fault ρ :=
  match field.encode p with
  | some v => field.decode src v.reading r
  | none => .ok r

/-- What is written for a field can be printed, and changes another record as `change` does. -/
structure Carries (field : Field ρ) (depth : Nat) (p : ρ) (change : ρ → ρ) : Prop where
  plain : ∀ v ∈ field.encode p, v.isPlain = true
  back : ∀ src, src.Fits depth → ∀ r, field.carry src p r = .ok (change r)

section

variable {name : String} {codec : Codec α} {depth : Nat} {p : ρ}

theorem plain_carries {get : ρ → α} {set : α → ρ → ρ} (keeps : codec.Keeps depth (get p)) :
    (plain name codec get set).Carries depth p (set (get p)) where
  plain v hv := by
    simp only [Field.plain, Option.mem_some] at hv
    exact hv ▸ keeps.plain
  back src fits r := by
    simp only [carry, Field.plain, keeps.back src fits]
    rfl

/-- What is unset is not written, and a new record has it unset. -/
theorem optional_carries {get : ρ → Option α} {set : Option α → ρ → ρ}
    (same : ∀ r, set (get r) r = r) (keeps : ∀ a, codec.Keeps depth a)
    (there : ∀ a, (codec.encode a).reading ≠ .null) :
    (optional name codec get set).Carries depth p fun r => set ((get p).or (get r)) r := by
  cases given : get p with
  | none =>
      constructor
      · intro v hv
        simp [optional, given] at hv
      · intro src fits r
        simp only [carry, optional, given, Option.map_none, Option.none_or, same]
  | some a =>
      constructor
      · intro v hv
        simp only [optional, given, Option.map_some, Option.mem_some] at hv
        exact hv ▸ (keeps a).plain
      · intro src fits r
        simp only [carry, optional, given, Option.map_some, Option.some_or]
        split
        · rename_i null
          exact absurd null (there a)
        · rw [(keeps a).back src fits]
          rfl

/-- An empty list is not written, and a new record has it empty. -/
theorem listed_carries {codec : Codec (List α)} {get : ρ → List α} {set : List α → ρ → ρ}
    (same : ∀ r, set (get r) r = r) (keeps : codec.Keeps depth (get p)) :
    (listed name codec get set).Carries depth p
      fun r => set (if (get p).isEmpty then get r else get p) r := by
  cases empty : (get p).isEmpty with
  | true =>
      constructor
      · intro v hv
        simp only [listed, empty, if_true] at hv
        cases hv
      · intro src fits r
        simp only [carry, listed, empty, if_true, same]
  | false =>
      constructor
      · intro v hv
        simp only [listed, empty, Bool.false_eq_true, if_false, Option.mem_some] at hv
        exact hv ▸ keeps.plain
      · intro src fits r
        simp only [carry, listed, empty, Bool.false_eq_true, if_false, keeps.back src fits]
        rfl

end

variable {name : String} {codec : Codec α} {get : ρ → Option α} {depth : Nat} {p : ρ}

theorem needed_carries {set : α → ρ → ρ} {a : α} (given : get p = some a)
    (keeps : codec.Keeps depth a) : (needed name codec get set).Carries depth p (set a) where
  plain v hv := by
    simp only [needed, given, Option.map_some, Option.mem_some] at hv
    exact hv ▸ keeps.plain
  back src fits r := by
    simp only [carry, needed, given, Option.map_some, keeps.back src fits]
    rfl

theorem nullable_carries {set : Option α → ρ → ρ}
    (keeps : ∀ a ∈ get p, codec.Keeps depth a ∧ (codec.encode a).reading ≠ .null) :
    (nullable name codec get set).Carries depth p (set (get p)) := by
  cases given : get p with
  | none =>
      constructor
      · intro v hv
        simp only [nullable, given, Option.map_none, Option.getD_none, Option.mem_some] at hv
        exact hv ▸ rfl
      · intro src fits r
        simp only [carry, nullable, given, Option.map_none, Option.getD_none]
        rfl
  | some a =>
      obtain ⟨keeps, some⟩ := keeps a given
      constructor
      · intro v hv
        simp only [nullable, given, Option.map_some, Option.getD_some, Option.mem_some] at hv
        exact hv ▸ keeps.plain
      · intro src fits r
        simp only [carry, nullable, given, Option.map_some, Option.getD_some]
        rw [keeps.back src fits]
        rfl

end Field

namespace Record

variable {record : Record ρ} {depth : Nat} {p : ρ}

@[simp] theorem listed_or_empty (as : List α) : (if as = [] then [] else as) = as := by
  cases as <;> rfl

def membersOf (fields : List (Field ρ)) (p : ρ) : List (String × Json) :=
  fields.filterMap fun field => (field.encode p).map fun value => (field.name, value)

/-- The record that some changes lead to, one after the other. -/
def changed (changes : List (ρ → ρ)) (r : ρ) : ρ := changes.foldl (fun r change => change r) r

/-- What the fields of a record change, each in its turn. -/
abbrev Carry (depth : Nat) (p : ρ) : List (Field ρ) → List (ρ → ρ) → Prop :=
  List.Forall₂ fun field change => field.Carries depth p change

theorem plain_of_carry {fields : List (Field ρ)} {changes : List (ρ → ρ)}
    (h : Carry depth p fields changes) : Json.allMembersPlain (membersOf fields p) = true := by
  induction h with
  | nil => rfl
  | @cons field change fields changes first _ ih =>
      cases written : field.encode p with
      | none => simpa [membersOf, written] using ih
      | some v =>
          have members : membersOf (field :: fields) p = (field.name, v) :: membersOf fields p := by
            simp [membersOf, written]
          rw [members, Json.allMembersPlain, Bool.and_eq_true]
          exact ⟨first.plain v written, ih⟩

theorem plainItems_of_carry {fields : List (Field ρ)} {changes : List (ρ → ρ)}
    (h : Carry depth p fields changes) :
    Json.allPlain (fields.filterMap fun field => field.encode p) = true := by
  induction h with
  | nil => rfl
  | @cons field change fields changes first _ ih =>
      cases written : field.encode p with
      | none => simpa [written] using ih
      | some v => simpa [written, Json.allPlain] using ⟨first.plain v written, ih⟩

theorem find?_name {fields : List (Field ρ)} (names : (fields.map Field.name).Nodup) {field : Field ρ}
    (member : field ∈ fields) :
    (fields.find? fun other => other.name == field.name) = some field := by
  induction fields with
  | nil => cases member
  | cons first fields ih =>
      rw [List.map_cons, List.nodup_cons] at names
      rcases List.mem_cons.mp member with rfl | member
      · exact List.find?_cons_of_pos (by simp)
      · have other : first.name ≠ field.name :=
          fun same => names.1 (same ▸ List.mem_map_of_mem member)
        rw [List.find?_cons_of_neg (by simpa using other)]
        exact ih names.2 member

theorem decodeMembers_written {src : Source} (fits : src.Fits depth)
    (known : (record.fields.map Field.name).Nodup) {fields : List (Field ρ)} {changes : List (ρ → ρ)}
    (h : Carry depth p fields changes) (sub : ∀ field ∈ fields, field ∈ record.fields)
    (names : (fields.map Field.name).Nodup) {seen : List String}
    (fresh : ∀ field ∈ fields, field.name ∉ seen) (r : ρ) :
    record.decodeMembers src seen r (Json.memberReadings (membersOf fields p)) =
      .ok (changed changes r) := by
  induction h generalizing seen r with
  | nil => rfl
  | @cons field change fields changes first _ ih =>
      rw [List.map_cons, List.nodup_cons] at names
      have back := first.back src fits r
      cases written : field.encode p with
      | none =>
          simp only [Field.carry, written, Except.ok.injEq] at back
          have members : membersOf (field :: fields) p = membersOf fields p := by
            simp [membersOf, written]
          rw [members, changed, List.foldl_cons, ← back]
          exact ih (fun f hf => sub f (by simp [hf])) names.2 (fun f hf => fresh f (by simp [hf])) r
      | some v =>
          simp only [Field.carry, written] at back
          have members : membersOf (field :: fields) p = (field.name, v) :: membersOf fields p := by
            simp [membersOf, written]
          have later : ∀ f ∈ fields, f.name ∉ field.name :: seen := by
            intro f hf there
            rcases List.mem_cons.mp there with same | there
            · exact names.1 (same ▸ List.mem_map_of_mem hf)
            · exact fresh f (by simp [hf]) there
          rw [members, Json.memberReadings, decodeMembers, find?_name known (sub field (by simp))]
          simp only [if_neg (fresh field (by simp)), back, bind, Except.bind]
          exact ih (fun f hf => sub f (by simp [hf])) names.2 later (change r)

/-- A record that was written as an object changes a new one in each of its fields. -/
theorem decode_written (names : (record.fields.map Field.name).Nodup) {changes : List (ρ → ρ)}
    (h : Carry depth p record.fields changes) {src : Source} (fits : src.Fits (depth + 1)) :
    record.decode src (record.encode p).reading = .ok (changed changes record.start) := by
  obtain ⟨inner, enter, fits⟩ := fits.enter
  have members := decodeMembers_written fits names h (fun _ member => member) names
    (fun _ _ => List.not_mem_nil) record.start
  simp only [encode, Json.reading, decode, enter, bind, Except.bind]
  rw [show record.members p = membersOf record.fields p from rfl, members]
  rfl

/-- A record is kept when its fields are, and change a new record into it. -/
theorem codec_keeps (names : (record.fields.map Field.name).Nodup) {changes : List (ρ → ρ)}
    (h : Carry depth p record.fields changes) (all : changed changes record.start = p) :
    record.codec.Keeps (depth + 1) p where
  plain := plain_of_carry h
  back _ fits := (decode_written names h fits).trans (congrArg Except.ok all)

theorem codec_there (record : Record ρ) (r : ρ) : (record.codec.encode r).reading ≠ .null := by
  intro null
  cases null

/-- What is put together from parts is kept when the parts are. -/
theorem partsCodec_keeps {parts : α → ρ} {build : ρ → Except Misfit α} {a : α}
    (names : (record.fields.map Field.name).Nodup) {changes : List (ρ → ρ)}
    (h : Carry depth (parts a) record.fields changes)
    (built : build (changed changes record.start) = .ok a) :
    (record.partsCodec parts build).Keeps (depth + 1) a where
  plain := plain_of_carry h
  back src fits := by
    simp only [partsCodec, decode_written names h fits, bind, Except.bind, built]
    rfl

/-- A record that was written as a sequence of all its fields changes another in each of them. -/
theorem decodeItems_written {src : Source} (fits : src.Fits depth) {fields : List (Field ρ)}
    {changes : List (ρ → ρ)} (h : Carry depth p fields changes)
    (all : ∀ field ∈ fields, (field.encode p).isSome) (r : ρ) :
    decodeItems src r fields (Json.itemReadings (fields.filterMap fun field => field.encode p)) =
      .ok (changed changes r, [], []) := by
  induction h generalizing r with
  | nil => rfl
  | @cons field change fields changes first _ ih =>
      obtain ⟨v, written⟩ := Option.isSome_iff_exists.mp (all field (by simp))
      have back := first.back src fits r
      simp only [Field.carry, written] at back
      have items : ((field :: fields).filterMap fun field => field.encode p) =
          v :: fields.filterMap fun field => field.encode p := by
        simp [written]
      rw [items, Json.itemReadings, decodeItems, back]
      exact ih (fun f hf => all f (by simp [hf])) (change r)

end Record

/-! ## What decoding preserves -/

theorem bind_eq_ok {ε α β : Type} {x : Except ε α} {f : α → Except ε β} {b : β}
    (h : x >>= f = .ok b) : ∃ a, x = .ok a ∧ f a = .ok b := by
  cases x with
  | error e => cases h
  | ok a => exact ⟨a, rfl, h⟩

/-- Whether a property of the record still holds when the field has been decoded. -/
def Field.Preserves (field : Field ρ) (P : ρ → Prop) : Prop :=
  ∀ src json r r', P r → field.decode src json r = .ok r' → P r'

namespace Field

variable {P : ρ → Prop} {name : String}

theorem plain_preserves {codec : Codec α} {get : ρ → α} {set : α → ρ → ρ}
    (sets : ∀ a r, P r → P (set a r)) : (plain name codec get set).Preserves P := by
  intro src json r r' holds h
  obtain ⟨a, -, ⟨⟩⟩ := bind_eq_ok h
  exact sets a r holds

theorem optional_preserves {codec : Codec α} {get : ρ → Option α} {set : Option α → ρ → ρ}
    (sets : ∀ a r, P r → P (set a r)) : (optional name codec get set).Preserves P := by
  intro src json r r' holds h
  unfold optional at h
  dsimp only at h
  split at h
  · cases h
    exact sets none r holds
  · obtain ⟨a, -, ⟨⟩⟩ := bind_eq_ok h
    exact sets (some a) r holds

theorem listed_preserves {codec : Codec (List α)} {get : ρ → List α} {set : List α → ρ → ρ}
    (sets : ∀ as r, P r → P (set as r)) : (listed name codec get set).Preserves P := by
  intro src json r r' holds h
  obtain ⟨as, -, ⟨⟩⟩ := bind_eq_ok h
  exact sets as r holds

theorem sorted_preserves {item : Codec α} {arrange : List α → List α} {get : ρ → List α}
    {set : List α → ρ → ρ} (sets : ∀ as r, P r → P (set (arrange as) r)) :
    (listed name (.sorted item arrange) get set).Preserves P := by
  intro src json r r' holds h
  obtain ⟨as, found, ⟨⟩⟩ := bind_eq_ok h
  obtain ⟨items, -, ⟨⟩⟩ := bind_eq_ok found
  exact sets items r holds

end Field

namespace Record

variable {record : Record ρ} {P : ρ → Prop}

theorem decodeMembers_preserves (fields : ∀ field ∈ record.fields, field.Preserves P) {src : Source}
    {seen : List String} {members : List (Option String × Json.Reading)} {r r' : ρ} (holds : P r)
    (h : record.decodeMembers src seen r members = .ok r') : P r' := by
  induction members generalizing seen r with
  | nil =>
      cases h
      exact holds
  | cons member members ih =>
      rcases member with ⟨_ | name, json⟩
      · cases h
      · unfold decodeMembers at h
        split at h
        · split at h
          · exact ih holds h
          · cases h
        · rename_i field found
          split at h
          · cases h
          · obtain ⟨next, decoded, h⟩ := bind_eq_ok h
            have known : field ∈ record.fields := List.mem_of_find?_eq_some found
            exact ih (fields field known src json r next holds decoded) h

theorem decodeItems_preserves {src : Source} {fields : List (Field ρ)}
    (preserves : ∀ field ∈ fields, field.Preserves P) {items : List Json.Reading} {r : ρ}
    {result : ρ × List (Field ρ) × List Json.Reading} (holds : P r)
    (h : decodeItems src r fields items = .ok result) : P result.1 := by
  induction fields generalizing items r with
  | nil =>
      unfold decodeItems at h
      cases h
      exact holds
  | cons field fields ih =>
      cases items with
      | nil =>
          unfold decodeItems at h
          cases h
          exact holds
      | cons item items =>
          obtain ⟨next, decoded, h⟩ := bind_eq_ok h
          have first := preserves field (by simp) src item r next holds decoded
          exact ih (fun f hf => preserves f (by simp [hf])) first h

/-- What holds of a new record and is preserved by every field holds of all that is decoded. -/
theorem decode_preserves (start : P record.start)
    (fields : ∀ field ∈ record.fields, field.Preserves P) {src : Source} {json : Json.Reading} {r : ρ}
    (h : record.decode src json = .ok r) : P r := by
  unfold decode at h
  split at h
  · obtain ⟨inner, -, h⟩ := bind_eq_ok h
    obtain ⟨r', decoded, h⟩ := bind_eq_ok h
    split at h
    · cases h
      exact decodeMembers_preserves fields start decoded
    · cases h
  · obtain ⟨inner, -, h⟩ := bind_eq_ok h
    obtain ⟨⟨r', left, more⟩, decoded, h⟩ := bind_eq_ok h
    have holds : P r' := decodeItems_preserves fields start decoded
    dsimp only at h
    split at h
    · split at h <;> cases h
    · split at h
      · cases h
      · split at h
        · cases h
        · cases h
          exact holds
  · cases h

end Record

/-! ## Texts -/

/-- A text that is read as a value holds that value and nothing else. -/
theorem decodeText_of_read {decode : Source → Json.Reading → Except Fault α} {s : String} {v : Json}
    {a : α} (h : Json.read s = (v.reading, true))
    (back : decode (.text Json.maxNesting) v.reading = .ok a) : decodeText decode s = .ok a := by
  simp only [decodeText, h, back, bind, Except.bind, if_true]
  rfl

theorem decodeText_compact {decode : Source → Json.Reading → Except Fault α} {v : Json} {a : α}
    (plain : v.isPlain = true) (back : decode (.text Json.maxNesting) v.reading = .ok a) :
    decodeText decode v.compact = .ok a :=
  decodeText_of_read (Json.read_compact plain) back

theorem Codec.ofText_compact {codec : Codec α} {depth : Nat} {a : α} (keeps : codec.Keeps depth a)
    (room : depth ≤ Json.maxNesting) : codec.ofText (codec.encode a).compact = .ok a :=
  decodeText_compact keeps.plain (keeps.back _ room)

theorem Codec.ofText_pretty {codec : Codec α} {depth : Nat} {a : α} (keeps : codec.Keeps depth a)
    (room : depth ≤ Json.maxNesting) : codec.ofText (codec.encode a).pretty = .ok a :=
  decodeText_of_read (Json.read_pretty keeps.plain) (keeps.back _ room)

end ClusterHarness.Schema
