import ClusterHarness.Proofs.Schema.RoundTrip
import Mathlib.Data.List.Pairwise

/-! # Records of which a part is given

What the members of an object say of a record: each names a field and stands for a change of it, a
null where a field is optional changes nothing, and so does a member with another name. A record is
decoded from such an object as its start with these changes, because its fields are apart from each
other: one that was not given is still as it was at the start.
-/

namespace ClusterHarness.Schema

/-! ## What values stand for -/

/-- Which JSON values stand for which values of a type. -/
def Meaning (α : Type) : Type := Json → α → Prop

namespace Meaning

variable {α : Type}

def text : Meaning String := fun v s => v = .text s

def bool : Meaning Bool := fun v b => v = .bool b

def uint64 : Meaning UInt64 := fun v n => v = .nat n.toNat

def uint32 : Meaning UInt32 := fun v n => v = .nat n.toNat

def uint16 : Meaning UInt16 := fun v n => v = .nat n.toNat

def int32 : Meaning Int32 := fun v n => v = .int n.toInt

/-- Texts that stand for what they spell. -/
def spelled (spells : String → α → Prop) : Meaning α := fun v a => ∃ s, v = .text s ∧ spells s a

/-- The name of a variant, or an object with nothing but a null beside it. -/
def named (e : Enumeration α) : Meaning α := fun v a =>
  a ∈ e.values ∧ (v = .text (e.label a) ∨ v = .object [(e.label a, .null)])

/-- An object that names a variant once, whatever else is in it, or a sequence of the name alone. -/
def tagged (e : TaggedEnumeration α) : Meaning α := fun v a =>
  a ∈ e.values ∧ ((∃ before after, v = .object (before ++ ("type", .text (e.label a)) :: after) ∧
    ∀ member ∈ before ++ after, member.1 ≠ "type") ∨ v = .array [.text (e.label a)])

def list (item : Meaning α) : Meaning (List α) := fun v as =>
  ∃ vs, v = .array vs ∧ List.Forall₂ item vs as

end Meaning

/-- A field as an object may give it. -/
structure FieldForm (ρ : Type) where
  name : String
  /-- Whether a value stands for a change of a record. -/
  Means : Json → (ρ → ρ) → Prop

namespace FieldForm

variable {ρ α : Type}

def required (name : String) (meaning : Meaning α) (change : α → ρ → ρ) : FieldForm ρ where
  name := name
  Means v apply := ∃ a, meaning v a ∧ apply = change a

/-- A field that may be null, which says nothing. -/
def optional (name : String) (meaning : Meaning α) (change : α → ρ → ρ) : FieldForm ρ where
  name := name
  Means v apply := v = .null ∧ apply = id ∨ ∃ a, meaning v a ∧ apply = change a

end FieldForm

/-- What members make of a record. Each field is given at most once, and other members are passed
over. -/
inductive Amends {ρ : Type} (form : List (FieldForm ρ)) : List (String × Json) → ρ → ρ → Prop where
  | nil (r : ρ) : Amends form [] r r
  | given {entry : FieldForm ρ} {v change members r r'} (there : entry ∈ form)
      (means : entry.Means v change) (once : entry.name ∉ members.map Prod.fst)
      (later : Amends form members (change r) r') : Amends form ((entry.name, v) :: members) r r'
  | unknown {name v members r r'} (unknown : name ∉ form.map FieldForm.name)
      (later : Amends form members r r') : Amends form ((name, v) :: members) r r'

namespace Amends

variable {ρ α : Type} {form : List (FieldForm ρ)} {i : Nat} {name : String} {meaning : Meaning α}
  {change : α → ρ → ρ} {v : Json} {a : α} {members : List (String × Json)} {r r' : ρ}

theorem required (there : form[i]? = some (.required name meaning change)) (means : meaning v a)
    (once : name ∉ members.map Prod.fst) (later : Amends form members (change a r) r') :
    Amends form ((name, v) :: members) r r' :=
  .given (List.mem_of_getElem? there) ⟨a, means, rfl⟩ once later

theorem optional (there : form[i]? = some (.optional name meaning change)) (means : meaning v a)
    (once : name ∉ members.map Prod.fst) (later : Amends form members (change a r) r') :
    Amends form ((name, v) :: members) r r' :=
  .given (List.mem_of_getElem? there) (.inr ⟨a, means, rfl⟩) once later

theorem null (there : form[i]? = some (.optional name meaning change))
    (once : name ∉ members.map Prod.fst) (later : Amends form members r r') :
    Amends form ((name, .null) :: members) r r' :=
  .given (List.mem_of_getElem? there) (.inl ⟨rfl, rfl⟩) once later

end Amends

/-- An object stands for the default with what its members say. -/
def Meaning.object {ρ : Type} (form : List (FieldForm ρ)) (default : ρ) : Meaning ρ := fun v r =>
  ∃ members, v = .object members ∧ Amends form members default r

/-! ## Sources -/

/-- Whether a source has room for the containers of a value. -/
def Source.Holds (v : Json) : Source → Prop
  | .value => True
  | .text room => (v.reading.json? room).isSome = true

namespace Source.Holds

variable {src : Source}

theorem of_jsonItems? {room : Nat} {items : List Json}
    (h : (Json.Reading.jsonItems? room (Json.itemReadings items)).isSome = true) :
    ∀ item ∈ items, (Source.text room).Holds item := by
  induction items with
  | nil => simp
  | cons item items ih =>
      obtain ⟨vs, h⟩ := Option.isSome_iff_exists.mp h
      obtain ⟨v, first, h⟩ := Option.bind_eq_some_iff.mp h
      obtain ⟨vs, others, -⟩ := Option.bind_eq_some_iff.mp h
      have later := ih (Option.isSome_iff_exists.mpr ⟨vs, others⟩)
      have here : (Source.text room).Holds item := Option.isSome_iff_exists.mpr ⟨v, first⟩
      exact List.forall_mem_cons.mpr ⟨here, later⟩

theorem of_jsonMembers? {room : Nat} {members : List (String × Json)}
    (h : (Json.Reading.jsonMembers? room (Json.memberReadings members)).isSome = true) :
    ∀ member ∈ members, (Source.text room).Holds member.2 := by
  induction members with
  | nil => simp
  | cons member members ih =>
      obtain ⟨vs, h⟩ := Option.isSome_iff_exists.mp h
      obtain ⟨v, first, h⟩ := Option.bind_eq_some_iff.mp h
      obtain ⟨vs, others, -⟩ := Option.bind_eq_some_iff.mp h
      have later := ih (Option.isSome_iff_exists.mpr ⟨vs, others⟩)
      have here : (Source.text room).Holds member.2 := Option.isSome_iff_exists.mpr ⟨v, first⟩
      exact List.forall_mem_cons.mpr ⟨here, later⟩

theorem enter_array {items : List Json} (h : src.Holds (.array items)) :
    ∃ inner, src.enter = .ok inner ∧ ∀ item ∈ items, inner.Holds item := by
  cases src with
  | value => exact ⟨.value, rfl, fun _ _ => trivial⟩
  | text room =>
      cases room with
      | zero => cases h
      | succ room =>
          refine ⟨.text room, rfl, of_jsonItems? ?_⟩
          simpa [Source.Holds, Json.reading, Json.Reading.json?] using h

theorem enter_object {members : List (String × Json)} (h : src.Holds (.object members)) :
    ∃ inner, src.enter = .ok inner ∧ ∀ member ∈ members, inner.Holds member.2 := by
  cases src with
  | value => exact ⟨.value, rfl, fun _ _ => trivial⟩
  | text room =>
      cases room with
      | zero => cases h
      | succ room =>
          refine ⟨.text room, rfl, of_jsonMembers? ?_⟩
          simpa [Source.Holds, Json.reading, Json.Reading.json?] using h

theorem fits {members : List (String × Json)} (h : src.Holds (.object members)) : src.Fits 1 := by
  cases src with
  | value => trivial
  | text room =>
      cases room with
      | zero => cases h
      | succ room => exact Nat.le_add_left 1 room

end Source.Holds

/-! ## Codecs -/

/-- Whether a codec decodes every value as what it stands for. Nothing is stood for by null. -/
structure Codec.Takes {α : Type} (codec : Codec α) (meaning : Meaning α) : Prop where
  decode : ∀ v a, meaning v a → ∀ src : Source, src.Holds v → codec.decode src v.reading = .ok a
  solid : ∀ a, ¬ meaning .null a

namespace Codec

variable {α : Type}

/-- What a codec keeps at any depth is decoded from the value that stands for it. -/
theorem takes_of_keeps {codec : Codec α} {meaning : Meaning α} (keeps : ∀ a, codec.Keeps 0 a)
    (encoded : ∀ v a, meaning v a → v = codec.encode a) (solid : ∀ a, codec.encode a ≠ .null) :
    codec.Takes meaning where
  decode v a means src _ := by
    rw [encoded v a means]
    apply (keeps a).back
    cases src with
    | value => trivial
    | text room => exact Nat.zero_le room
  solid a means := solid a (encoded .null a means).symm

theorem text_takes : text.Takes .text := takes_of_keeps (text_keeps 0) (fun _ _ => id) nofun

theorem bool_takes : bool.Takes .bool := takes_of_keeps (bool_keeps 0) (fun _ _ => id) nofun

theorem uint64_takes : uint64.Takes .uint64 := takes_of_keeps (uint64_keeps 0) (fun _ _ => id) nofun

theorem uint32_takes : uint32.Takes .uint32 := takes_of_keeps (uint32_keeps 0) (fun _ _ => id) nofun

theorem uint16_takes : uint16.Takes .uint16 := takes_of_keeps (uint16_keeps 0) (fun _ _ => id) nofun

theorem int32_takes : int32.Takes .int32 := takes_of_keeps (int32_keeps 0) (fun _ _ => id) nofun

theorem spelled_takes {write : α → String} {read : String → Except String α}
    {spells : String → α → Prop} (reads : ∀ s a, spells s a → read s = .ok a) :
    (spelled write read).Takes (.spelled spells) where
  decode := by
    intro v a means src _
    obtain ⟨s, rfl, spells⟩ := means
    simp only [spelled, Json.reading, text, bind, Except.bind, reads s a spells]
    rfl
  solid := by
    intro a means
    obtain ⟨s, ⟨⟩, -⟩ := means

theorem decodeItems_of_means {item : Codec α} {meaning : Meaning α} (takes : item.Takes meaning)
    {vs : List Json} {as : List α} (means : List.Forall₂ meaning vs as) {src : Source}
    (holds : ∀ v ∈ vs, src.Holds v) :
    decodeItems (item.decode src) (Json.itemReadings vs) = .ok as := by
  induction means with
  | nil => rfl
  | @cons v a vs as first _ ih =>
      obtain ⟨here, later⟩ := List.forall_mem_cons.mp holds
      rw [Json.itemReadings, decodeItems, takes.decode v a first src here, ih later]
      rfl

theorem list_takes {item : Codec α} {meaning : Meaning α} (takes : item.Takes meaning) :
    (list item).Takes (.list meaning) where
  decode := by
    intro v as means src holds
    obtain ⟨vs, rfl, means⟩ := means
    obtain ⟨inner, enter, room⟩ := holds.enter_array
    simp only [list, Json.reading, enter, bind, Except.bind, decodeItems_of_means takes means room,
      if_true]
    rfl
  solid := by
    intro as means
    obtain ⟨vs, ⟨⟩, -⟩ := means

end Codec

section

variable {α : Type}

theorem Enumeration.codec_takes {e : Enumeration α}
    (found : ∀ a ∈ e.values, e.ofLabel? (e.label a) = some a) : e.codec.Takes (.named e) where
  decode := by
    intro v a means src holds
    obtain ⟨member, rfl | rfl⟩ := means
    · have keeps := codec_keeps (found a member) 0
      apply keeps.back
      cases src with
      | value => trivial
      | text room => exact Nat.zero_le room
    · have known : e.label a ∈ e.labels := List.mem_map_of_mem member
      obtain ⟨inner, -, tag⟩ := tagged_object known .null holds.fits
      simp only [codec, Enumeration.decode, tag, ofLabel, found a member, bind, Except.bind]
      rfl
  solid := by
    intro a means
    obtain ⟨-, h | h⟩ := means
    · cases h
    · cases h

namespace TaggedEnumeration

variable {e : TaggedEnumeration α} {src : Source} {tag : Option α}

theorem readable_of_holds {v : Json} (holds : src.Holds v) : readable src v.reading = .ok () := by
  cases src with
  | value => rfl
  | text room => exact if_pos holds

/-- Members with other names are passed over. -/
theorem decodeMembers_passed {members rest : List (String × Json)}
    (other : ∀ member ∈ members, member.1 ≠ "type")
    (holds : ∀ member ∈ members, src.Holds member.2) :
    e.decodeMembers src tag (Json.memberReadings (members ++ rest)) =
      e.decodeMembers src tag (Json.memberReadings rest) := by
  induction members with
  | nil => rfl
  | cons member members ih =>
      obtain ⟨name, v⟩ := member
      obtain ⟨first, later⟩ := List.forall_mem_cons.mp other
      obtain ⟨here, more⟩ := List.forall_mem_cons.mp holds
      rw [List.cons_append, Json.memberReadings, decodeMembers, if_neg first]
      simp only [readable_of_holds here, bind, Except.bind]
      exact ih later more

theorem decodeMembers_of_once {a : α} {before after : List (String × Json)}
    (found : e.bare.ofLabel? (e.label a) = some a)
    (other : ∀ member ∈ before ++ after, member.1 ≠ "type")
    (holds : ∀ member ∈ before ++ after, src.Holds member.2) :
    e.decodeMembers src none
      (Json.memberReadings (before ++ ("type", .text (e.label a)) :: after)) = .ok (some a) := by
  rw [List.forall_mem_append] at other holds
  have known : e.label a ∈ e.bare.labels :=
    List.mem_map_of_mem (f := e.label) (List.mem_of_find?_eq_some found)
  have rest : e.decodeMembers src (some a) (Json.memberReadings (after ++ [])) = .ok (some a) :=
    decodeMembers_passed other.2 holds.2
  rw [List.append_nil] at rest
  rw [decodeMembers_passed other.1 holds.1, Json.memberReadings, decodeMembers, if_pos rfl]
  simp only [Option.isSome_none, Bool.false_eq_true, if_false, Json.reading, identifier, knownName,
    if_pos known, Enumeration.ofLabel, found, bind, Except.bind]
  exact rest

theorem codec_takes (found : ∀ a ∈ e.values, e.bare.ofLabel? (e.label a) = some a) :
    e.codec.Takes (.tagged e) where
  decode := by
    intro v a means src holds
    obtain ⟨member, ⟨before, after, rfl, other⟩ | rfl⟩ := means
    · obtain ⟨inner, enter, room⟩ := holds.enter_object
      have beside : ∀ member ∈ before ++ after, inner.Holds member.2 := by
        intro member there
        apply room
        rw [List.mem_append, List.mem_cons]
        rcases List.mem_append.mp there with there | there
        · exact .inl there
        · exact .inr (.inr there)
      have tag := decodeMembers_of_once (found a member) other beside
      simp only [codec, decode, Json.reading, enter, tag, bind, Except.bind]
      rfl
    · obtain ⟨inner, enter, -⟩ := holds.enter_array
      have known : e.label a ∈ e.bare.labels := List.mem_map_of_mem (f := e.label) member
      simp only [codec, decode, Json.reading, Json.itemReadings, enter, identifier, knownName,
        if_pos known, Enumeration.ofLabel, found a member, readableItems, bind, Except.bind]
      rfl
  solid := by
    intro a means
    obtain ⟨-, ⟨before, after, h, -⟩ | h⟩ := means
    · cases h
    · cases h

end TaggedEnumeration

end

/-! ## Fields -/

namespace Field

variable {ρ α : Type} {name : String} {field : Field ρ} {entry : FieldForm ρ} {start : ρ}

-- These equations are not closed by rfl, because simp has to use them in side goals.

@[simp] theorem plain_encode (name : String) (codec : Codec α) (get : ρ → α) (set : α → ρ → ρ)
    (r : ρ) : (plain name codec get set).encode r = some (codec.encode (get r)) := by
  rw [plain]

@[simp] theorem optional_encode (name : String) (codec : Codec α) (get : ρ → Option α)
    (set : Option α → ρ → ρ) (r : ρ) :
    (optional name codec get set).encode r = (get r).map codec.encode := by
  rw [optional]

@[simp] theorem listed_encode (name : String) (codec : Codec (List α)) (get : ρ → List α)
    (set : List α → ρ → ρ) (r : ρ) : (listed name codec get set).encode r =
      if (get r).isEmpty then none else some (codec.encode (get r)) := by
  rw [listed]

/-- Whether what is written for a field stays as it is when another field is decoded. -/
def Leaves (other field : Field ρ) : Prop :=
  ∀ written, other.Preserves fun r => field.encode r = written

@[simp] theorem plain_leaves {codec : Codec α} {get : ρ → α} {set : α → ρ → ρ}
    (same : ∀ a r, field.encode (set a r) = field.encode r) :
    (plain name codec get set).Leaves field :=
  fun _ => plain_preserves fun a r before => (same a r).trans before

@[simp] theorem optional_leaves {codec : Codec α} {get : ρ → Option α} {set : Option α → ρ → ρ}
    (same : ∀ a r, field.encode (set a r) = field.encode r) :
    (optional name codec get set).Leaves field :=
  fun _ => optional_preserves fun a r before => (same a r).trans before

@[simp] theorem listed_leaves {codec : Codec (List α)} {get : ρ → List α} {set : List α → ρ → ρ}
    (same : ∀ as r, field.encode (set as r) = field.encode r) :
    (listed name codec get set).Leaves field :=
  fun _ => listed_preserves fun as r before => (same as r).trans before

/-- Whether a field is decoded as its entry means it, as long as it is not set without being so at
the start. -/
structure Agrees (start : ρ) (field : Field ρ) (entry : FieldForm ρ) : Prop where
  name : field.name = entry.name
  decode : ∀ v change r, entry.Means v change →
    (field.encode start = none → field.encode r = none) →
    ∀ src : Source, src.Holds v → field.decode src v.reading r = .ok (change r)

/-- A field agrees with what it has to be given when it is set to what a codec takes. -/
theorem agrees_of_sets {codec : Codec α} {meaning : Meaning α} {set : α → ρ → ρ}
    (takes : codec.Takes meaning) (named : field.name = name)
    (sets : ∀ src json r, field.decode src json r = do return set (← codec.decode src json) r) :
    field.Agrees start (.required name meaning set) where
  name := named
  decode := by
    intro v change r means _ src holds
    obtain ⟨a, means, rfl⟩ := means
    rw [sets, takes.decode v a means src holds]
    rfl

theorem plain_agrees {codec : Codec α} {meaning : Meaning α} {get : ρ → α} {set : α → ρ → ρ}
    (takes : codec.Takes meaning) :
    (plain name codec get set).Agrees start (.required name meaning set) :=
  agrees_of_sets takes rfl fun _ _ _ => rfl

theorem listed_agrees {codec : Codec (List α)} {meaning : Meaning (List α)} {get : ρ → List α}
    {set : List α → ρ → ρ} (takes : codec.Takes meaning) :
    (listed name codec get set).Agrees start (.required name meaning set) :=
  agrees_of_sets takes rfl fun _ _ _ => rfl

/-- A set is what its elements come to when they are put in order. -/
theorem sorted_agrees {item : Codec α} {arrange : List α → List α} {meaning : Meaning α}
    {get : ρ → List α} {set : List α → ρ → ρ} (takes : item.Takes meaning) :
    (listed name (.sorted item arrange) get set).Agrees start
      (.required name (.list meaning) fun as => set (arrange as)) := by
  apply agrees_of_sets (Codec.list_takes takes) rfl
  intro src json r
  simp only [listed, Codec.sorted, bind_assoc, pure_bind]

/-- A null leaves a field unset that is so at the start. -/
theorem optional_agrees {codec : Codec α} {meaning : Meaning α} {get : ρ → Option α}
    {set : Option α → ρ → ρ} (takes : codec.Takes meaning) (back : ∀ r, set (get r) r = r)
    (unset : get start = none) : (optional name codec get set).Agrees start
      (.optional name meaning fun a => set (some a)) where
  name := rfl
  decode := by
    intro v change r means still src holds
    obtain ⟨rfl, rfl⟩ | ⟨a, means, rfl⟩ := means
    · simp only [optional_encode, unset, Option.map_none, Option.map_eq_none_iff, true_implies]
        at still
      have kept := back r
      rw [still] at kept
      exact congrArg Except.ok kept
    · have solid : v.reading ≠ .null := by
        intro null
        cases v with
        | null => exact takes.solid a means
        | _ => cases null
      simp only [optional, takes.decode v a means src holds, bind, Except.bind]
      rfl

end Field

/-! ## Records -/

namespace Record

variable {ρ : Type} {record : Record ρ} {form : List (FieldForm ρ)}

/-- Whether each field is left as it is when another one is decoded. -/
def IsApart (record : Record ρ) : Prop :=
  record.fields.Pairwise fun field other => field.Leaves other ∧ other.Leaves field

theorem IsApart.leaves (apart : record.IsApart) {field other : Field ρ}
    (member : field ∈ record.fields) (there : other ∈ record.fields)
    (ne : field.name ≠ other.name) : field.Leaves other := by
  have symm : Std.Symm fun f g : Field ρ => f.Leaves g ∧ g.Leaves f := ⟨fun _ _ => And.symm⟩
  exact (apart.forall member there fun same => ne (congrArg Field.name same)).1

/-- Whether the fields that were not met yet are unset, as far as they are so at the start. -/
def IsUntouched (record : Record ρ) (seen : List String) (r : ρ) : Prop :=
  ∀ field ∈ record.fields, field.name ∉ seen →
    field.encode record.start = none → field.encode r = none

theorem IsUntouched.start : record.IsUntouched [] record.start := fun _ _ _ => id

/-- A field that is decoded leaves the others as they were. -/
theorem IsUntouched.decode {seen : List String} {r r' : ρ} (untouched : record.IsUntouched seen r)
    (apart : record.IsApart) {field : Field ρ} (member : field ∈ record.fields) {src : Source}
    {json : Json.Reading} (decoded : field.decode src json r = .ok r') :
    record.IsUntouched (field.name :: seen) r' := by
  intro other known unmet start
  obtain ⟨ne, before⟩ := not_or.mp (List.mem_cons.not.mp unmet)
  have unset := untouched other known before start
  exact apart.leaves member known (Ne.symm ne) none src json r r' unset decoded

/-- Whether each field is decoded as the form of a record means it. -/
abbrev Follows (record : Record ρ) (form : List (FieldForm ρ)) : Prop :=
  List.Forall₂ (Field.Agrees record.start) record.fields form

theorem field_of_entry {fields : List (Field ρ)} {start : ρ}
    (agree : List.Forall₂ (Field.Agrees start) fields form) {entry : FieldForm ρ}
    (there : entry ∈ form) : ∃ field ∈ fields, field.Agrees start entry := by
  induction agree with
  | nil => cases there
  | cons first later ih => grind

theorem names_of_agree {fields : List (Field ρ)} {start : ρ}
    (agree : List.Forall₂ (Field.Agrees start) fields form) :
    fields.map Field.name = form.map FieldForm.name := by
  induction agree with
  | nil => rfl
  | cons first later ih => grind [first.name]

/-- Members are decoded as what they make of a record, as long as they give fields that were not met
yet. -/
theorem decodeMembers_of_amends (agree : record.Follows form)
    (names : (record.fields.map Field.name).Nodup) (apart : record.IsApart) {src : Source}
    {members : List (String × Json)} {r r' : ρ} (amends : Amends form members r r')
    (holds : ∀ member ∈ members, src.Holds member.2) {seen : List String}
    (new : ∀ member ∈ members, member.1 ∉ seen) (untouched : record.IsUntouched seen r) :
    record.decodeMembers src seen r (Json.memberReadings members) = .ok r' := by
  induction amends generalizing seen with
  | nil => rfl
  | @given entry v change members r r' there means once later ih =>
      obtain ⟨field, member, agrees⟩ := field_of_entry agree there
      obtain ⟨here, more⟩ := List.forall_mem_cons.mp holds
      obtain ⟨first, others⟩ := List.forall_mem_cons.mp new
      rw [← agrees.name] at first once
      have decoded : field.decode src v.reading r = .ok (change r) :=
        agrees.decode v change r means (untouched field member first) src here
      have unmet : ∀ member ∈ members, member.1 ∉ field.name :: seen := by
        intro member known
        have other : member.1 ≠ field.name := fun same => once (same ▸ List.mem_map_of_mem known)
        exact List.mem_cons.not.mpr (not_or.mpr ⟨other, others member known⟩)
      rw [Json.memberReadings, decodeMembers, ← agrees.name, find?_name names member]
      simp only [if_neg first, decoded, bind, Except.bind]
      exact ih more unmet (untouched.decode apart member decoded)
  | @unknown name v members r r' unknown later ih =>
      obtain ⟨-, more⟩ := List.forall_mem_cons.mp holds
      obtain ⟨-, others⟩ := List.forall_mem_cons.mp new
      have missing : (record.fields.find? fun field => field.name == name) = none := by
        rw [List.find?_eq_none]
        intro field member same
        rw [← names_of_agree agree] at unknown
        exact unknown (eq_of_beq same ▸ List.mem_map_of_mem member)
      rw [Json.memberReadings, decodeMembers, missing]
      simp only [Json.reading_wellFormed, if_true]
      exact ih more others untouched

/-- A record is taken from objects that give a part of it, with its start for the rest. -/
theorem codec_takes {default : ρ} (start : record.start = default)
    (names : (record.fields.map Field.name).Nodup) (apart : record.IsApart)
    (agree : record.Follows form) : record.codec.Takes (.object form default) where
  decode := by
    intro v r means src holds
    obtain ⟨members, rfl, amends⟩ := means
    obtain ⟨inner, enter, room⟩ := holds.enter_object
    subst start
    have decoded := decodeMembers_of_amends agree names apart amends room
      (fun _ _ => List.not_mem_nil) .start
    simp only [codec, decode, Json.reading, enter, decoded, bind, Except.bind]
    rfl
  solid := by
    intro r means
    obtain ⟨members, ⟨⟩, -⟩ := means

end Record

namespace Codec.Takes

variable {α : Type} {codec : Codec α} {meaning : Meaning α} {v : Json} {a : α}

theorem ofJson (takes : codec.Takes meaning) (means : meaning v a) : codec.ofJson v = .ok a :=
  takes.decode v a means .value trivial

theorem ofText (takes : codec.Takes meaning) (means : meaning v a) {s : String}
    (stands : Json.parse? s = some v) : codec.ofText s = .ok a := by
  obtain ⟨read, room⟩ := Json.read_of_parse? stands
  have holds : (Source.text Json.maxNesting).Holds v := Option.isSome_iff_exists.mpr ⟨v, room⟩
  exact decodeText_of_read read (takes.decode v a means _ holds)

end Codec.Takes

/-- Whether a codec decodes the empty object as a default, and any object that gives a part of a
record as that default with what is given, as a value and as a text. -/
structure Codec.Completes {ρ : Type} (codec : Codec ρ) (form : List (FieldForm ρ)) (default : ρ) :
    Prop where
  empty : codec.ofJson (.object []) = .ok default
  value : ∀ members r, Amends form members default r → codec.ofJson (.object members) = .ok r
  text : ∀ members r, Amends form members default r →
    ∀ s, Json.parse? s = some (.object members) → codec.ofText s = .ok r

theorem Codec.Takes.completes {ρ : Type} {codec : Codec ρ} {form : List (FieldForm ρ)} {default : ρ}
    (takes : codec.Takes (.object form default)) : codec.Completes form default where
  empty := takes.ofJson ⟨[], rfl, .nil default⟩
  value members _ amends := takes.ofJson ⟨members, rfl, amends⟩
  text members _ amends _ stands := takes.ofText ⟨members, rfl, amends⟩ stands

end ClusterHarness.Schema
