import ClusterHarness.Compute.Job
import ClusterHarness.Compute.Wire
import ClusterHarness.Proofs.Schema.RoundTrip

/-! # Jobs and exceptions as texts

A job that was written is read as the same job, and so is an exception in either of its wire forms.
-/

namespace ClusterHarness.Compute

open Schema

theorem ExceptionKind.codec_keeps (depth : Nat) (kind : ExceptionKind) : codec.Keeps depth kind :=
  Enumeration.codec_keeps (by cases kind <;> rfl) depth

theorem ExceptionKind.ofLabel_label (kind : ExceptionKind) : variants.ofLabel kind.label = .ok kind := by
  cases kind <;> rfl

theorem ExceptionKind.label_mem (kind : ExceptionKind) : kind.label ∈ variants.labels := by
  cases kind <;> decide

theorem JobKind.codec_keeps (depth : Nat) (kind : JobKind) : codec.Keeps depth kind :=
  Enumeration.codec_keeps (by cases kind <;> rfl) depth

/-! ## Jobs -/

theorem Closure.content_keeps (depth : Nat) (c : Closure) : content.Keeps (depth + 1) c := by
  cases c with
  | throw kind message code =>
      exact Record.partsCodec_keeps (by decide)
        (.cons (Field.needed_carries rfl (ExceptionKind.codec_keeps depth kind))
          (.cons (Field.needed_carries rfl (Codec.text_keeps depth message))
            (.cons (Field.needed_carries rfl (Codec.int32_keeps depth code)) .nil)))
        rfl

theorem Closure.codec_keeps (depth : Nat) (c : Closure) : codec.Keeps (depth + 2) c where
  plain := by
    have content := (content_keeps depth c).plain
    simp only [codec, Json.isPlain, Json.allMembersPlain, content, Bool.and_self]
  back src fits := by
    obtain ⟨inner, room, tag⟩ := tagged_object (List.mem_singleton_self label) (content.encode c) fits
    have back := (content_keeps depth c).back inner room
    obtain ⟨members, object⟩ : ∃ members, (content.encode c).reading = .object members true := ⟨_, rfl⟩
    rw [object] at tag back
    simp only [codec, tag, decodeContent, back, Tagged.finish, bind, Except.bind, if_true]

theorem Job.codec_keeps (j : Job) : codec.Keeps 3 j :=
  Record.partsCodec_keeps (by decide)
    (.cons (Field.needed_carries rfl (JobKind.codec_keeps 2 j.kind))
      (.cons (Field.needed_carries rfl (Closure.codec_keeps 0 j.closure))
        (.cons (Field.needed_carries rfl (Codec.text_keeps 2 j.argument)) .nil)))
    rfl

/-! ## Exceptions -/

namespace UserException

variable (e : UserException)

theorem messageField_carries (depth : Nat) : messageField.Carries depth e.parts fun p =>
    { p with message := some e.message } :=
  Field.needed_carries rfl (Codec.text_keeps depth e.message)

theorem codeField_carries (depth : Nat) : codeField.Carries depth e.parts fun p =>
    { p with code := some e.code } :=
  Field.needed_carries rfl (Codec.int32_keeps depth e.code)

theorem detailsField_carries (depth : Nat) : detailsField.Carries depth e.parts fun p =>
    { p with details := e.details } :=
  Field.nullable_carries fun details _ => ⟨Codec.text_keeps depth details, nofun⟩

theorem stackTraceField_carries (depth : Nat) : stackTraceField.Carries (depth + 1) e.parts fun p =>
    { p with stackTrace := some e.stackTrace } :=
  Field.needed_carries rfl (Codec.list_keeps fun line _ => Codec.text_keeps depth line)

theorem codec_keeps (depth : Nat) : codec.Keeps (depth + 2) e :=
  Record.partsCodec_keeps (by decide)
    (.cons (Field.needed_carries rfl (ExceptionKind.codec_keeps (depth + 1) e.kind))
      (.cons (messageField_carries e _) (.cons (codeField_carries e _)
        (.cons (detailsField_carries e _) (.cons (stackTraceField_carries e depth) .nil)))))
    rfl

theorem positional_carry (depth : Nat) : Record.Carry (depth + 1) e.parts positional.fields
    [fun p => { p with message := some e.message }, fun p => { p with code := some e.code },
      fun p => { p with details := e.details }, fun p => { p with stackTrace := some e.stackTrace }] :=
  .cons (messageField_carries e _) (.cons (codeField_carries e _)
    (.cons (detailsField_carries e _) (.cons (stackTraceField_carries e depth) .nil)))

/-- A sequence of positions says nothing of the kind, which the name beside it tells. -/
theorem decodePositions_positions (external : e.kind = .externalizable) {depth : Nat} {src : Source}
    (fits : src.Fits (depth + 2)) :
    decodePositions src (.array (Json.itemReadings e.positions) true) = .ok e := by
  obtain ⟨inner, enter, room⟩ := fits.enter
  have items := Record.decodeItems_written room (positional_carry e depth)
    (by simp [positional, messageField, codeField, detailsField, stackTraceField, Field.needed,
      Field.nullable, parts]) positional.start
  have whole : positional.decode src (.array (Json.itemReadings e.positions) true) =
      .ok { e.parts with kind := some .externalizable } := by
    simp only [Record.decode, enter, bind, Except.bind, positions]
    rw [items]
    rfl
  rw [decodePositions, whole]
  cases e
  cases external
  rfl

theorem toWire_plain : e.toWire.isPlain = true := by
  cases kind : e.kind with
  | serializable =>
      have content := (codec_keeps e 0).plain
      simp only [toWire, kind, Json.isPlain, Json.allMembersPlain, content, Bool.and_self]
  | externalizable =>
      have content := Record.plainItems_of_carry (positional_carry e 0)
      simp only [toWire, kind, Json.isPlain, Json.allMembersPlain, positions, content, Bool.and_self]

theorem ofWire_toWire {src : Source} (fits : src.Fits 3) : ofWire src e.toWire.reading = .ok e := by
  cases kind : e.kind with
  | serializable =>
      obtain ⟨inner, room, tag⟩ :=
        tagged_object (ExceptionKind.label_mem .serializable) (codec.encode e) fits
      have back := (codec_keeps e 0).back inner room
      simp only [ofWire, toWire, kind, tag, decodeForm, ExceptionKind.ofLabel_label, back,
        Tagged.finish, bind, Except.bind, if_true]
  | externalizable =>
      obtain ⟨inner, room, tag⟩ :=
        tagged_object (ExceptionKind.label_mem .externalizable) (.array e.positions) fits
      have back := decodePositions_positions e kind room
      rw [Json.reading] at tag
      simp only [ofWire, toWire, kind, tag, decodeForm, ExceptionKind.ofLabel_label, back,
        Tagged.finish, bind, Except.bind, if_true]

theorem unmarshal_marshal : unmarshal e.marshal = .ok e :=
  decodeText_compact (toWire_plain e) (ofWire_toWire e (show 3 ≤ Json.maxNesting by decide))

theorem marshal_injective : Function.Injective marshal := by
  intro e f same
  have read : unmarshal e.marshal = .ok f := by rw [same, unmarshal_marshal]
  rw [unmarshal_marshal] at read
  cases read
  rfl

end UserException

/-- An exception is rebuilt from its bytes on the wire, whichever of the two forms it has, and so is a
job from its JSON. The bytes tell exceptions apart, their kinds included. -/
theorem wire_forms_decode :
    (∀ e : UserException, UserException.unmarshal e.marshal = .ok e) ∧
    (∀ job : Job, Job.codec.ofText (Job.codec.encode job).compact = .ok job ∧
      Job.codec.ofJson (Job.codec.encode job) = .ok job) ∧
    ∀ e f : UserException, e.marshal.toUTF8 = f.marshal.toUTF8 ↔ e = f := by
  refine ⟨UserException.unmarshal_marshal, fun job => ?_, fun e f => ?_⟩
  · have keeps := Job.codec_keeps job
    exact ⟨Codec.ofText_compact keeps (by decide), keeps.back .value trivial⟩
  · rw [String.toUTF8, String.toUTF8, String.toByteArray_inj]
    exact UserException.marshal_injective.eq_iff

end ClusterHarness.Compute
