import ClusterHarness.Json.Reading
import ClusterHarness.Proofs.Json.Tokens

/-! # Reading what was printed

The compact layout of a value is read back as that value, when its numbers fit 64 bits. Whatever text
stands for a value, what is read of it is the reading of that value, which is well formed.
-/

namespace ClusterHarness.Json

namespace Reading

variable {frames : List Frame} {more : List Token}

/-- An array that begins with a value is no empty one. -/
theorem run_firstItem (item : Json) (items : List Json) :
    run .firstItem frames (itemTokens (item :: items) ++ more) =
      run .value (.array [] :: frames) (itemTokens (item :: items) ++ more) := by
  cases items <;> cases item <;> rfl

theorem run_firstName (member : String × Json) (members : List (String × Json)) :
    run .firstName frames (memberTokens (member :: members) ++ more) =
      run (.name []) frames (memberTokens (member :: members) ++ more) := by
  cases members <;> rfl

end Reading

open Reading

mutual

/-- The tokens of a value are read as that value, wherever it stands. -/
theorem run_valueTokens (v : Json) (frames : List Frame) (more : List Token) :
    run .value frames (v.valueTokens ++ more) = run (.done v.reading) frames more := by
  match v with
  | .null | .bool _ | .number _ | .text _ => rfl
  | .array [] => rfl
  | .array (item :: items) =>
      have inner := run_itemTokens item items [] frames more
      rw [← run_firstItem] at inner
      simpa [valueTokens, run, step?, begin?, reading] using inner
  | .object [] => rfl
  | .object (member :: members) =>
      have inner := run_memberTokens member members [] frames more
      rw [← run_firstName] at inner
      simpa [valueTokens, run, step?, begin?, reading] using inner
termination_by sizeOf v

theorem run_itemTokens (item : Json) (items : List Json) (done : List Reading)
    (frames : List Frame) (more : List Token) :
    run .value (.array done :: frames) (itemTokens (item :: items) ++ .closeArray :: more) =
      run (.done (.array (done.reverse ++ itemReadings (item :: items)) true)) frames more := by
  match items with
  | [] =>
      rw [itemTokens, run_valueTokens item]
      simp [run, step?, itemReadings]
  | next :: items =>
      have others := run_itemTokens next items (item.reading :: done) frames more
      simp only [itemTokens, List.append_assoc, List.cons_append, run_valueTokens item, run, step?]
      simpa [itemReadings] using others
termination_by sizeOf item + sizeOf items

theorem run_memberTokens (member : String × Json) (members : List (String × Json))
    (done : List (Option String × Reading)) (frames : List Frame) (more : List Token) :
    run (.name done) frames (memberTokens (member :: members) ++ .closeObject :: more) =
      run (.done (.object (done.reverse ++ memberReadings (member :: members)) true)) frames
        more := by
  match member, members with
  | (name, value), [] =>
      simp only [memberTokens, List.cons_append, run, step?, memberName?, Option.map_some,
        run_valueTokens value]
      simp [memberReadings]
  | (name, value), next :: members =>
      have others := run_memberTokens next members ((some name, value.reading) :: done) frames
        more
      simp only [memberTokens, List.append_assoc, List.cons_append, run, step?, memberName?,
        Option.map_some, run_valueTokens value]
      simpa [memberReadings] using others
termination_by sizeOf member + sizeOf members

end

/-- A text that falls into the tokens of a value is read as that value. -/
theorem read_of_tokens {v : Json} {s : String} (h : tokens s.toList = v.valueTokens) :
    read s = (v.reading, true) := by
  have parsed := run_valueTokens v [] []
  rw [List.append_nil] at parsed
  rw [read, h, parsed]
  rfl

/-- What is printed is read back. -/
theorem read_compact {v : Json} (plain : v.isPlain = true) : read v.compact = (v.reading, true) := by
  have split : tokens (v.compactChars ++ []) = _ := tokens_compactChars v plain nofun
  apply read_of_tokens
  rw [List.append_nil] at split
  rw [compact, String.toList_ofList, split, tokens, List.append_nil]

/-! ## Values that texts stand for -/

mutual

/-- What can be taken as a value is the reading of that value. -/
theorem reading_of_json? {room : Nat} {r : Reading} {v : Json} (h : r.json? room = some v) :
    v.reading = r := by
  match r with
  | .malformed | .hugeNumber | .brokenText => cases h
  | .null | .bool _ | .number _ | .text _ =>
      cases h
      rfl
  | .array items closed =>
      rw [Reading.json?] at h
      split at h
      · rename_i whole
        obtain ⟨vs, inner, rfl⟩ := Option.map_eq_some_iff.mp h
        rw [reading, itemReadings_of_json? inner, (Bool.and_eq_true_iff.mp whole).1]
      · cases h
  | .object members closed =>
      rw [Reading.json?] at h
      split at h
      · rename_i whole
        obtain ⟨vs, inner, rfl⟩ := Option.map_eq_some_iff.mp h
        rw [reading, memberReadings_of_json? inner, (Bool.and_eq_true_iff.mp whole).1]
      · cases h
termination_by sizeOf r

theorem itemReadings_of_json? {room : Nat} {items : List Reading} {vs : List Json}
    (h : Reading.jsonItems? room items = some vs) : itemReadings vs = items := by
  match items with
  | [] =>
      cases h
      rfl
  | item :: items =>
      obtain ⟨v, first, h⟩ := Option.bind_eq_some_iff.mp h
      obtain ⟨vs, others, ⟨⟩⟩ := Option.bind_eq_some_iff.mp h
      rw [itemReadings, reading_of_json? first, itemReadings_of_json? others]
termination_by sizeOf items

theorem memberReadings_of_json? {room : Nat} {members : List (Option String × Reading)}
    {vs : List (String × Json)} (h : Reading.jsonMembers? room members = some vs) :
    memberReadings vs = members := by
  match members with
  | [] =>
      cases h
      rfl
  | (name, value) :: members =>
      obtain ⟨text, named, h⟩ := Option.bind_eq_some_iff.mp h
      obtain ⟨v, first, h⟩ := Option.bind_eq_some_iff.mp h
      obtain ⟨vs, others, ⟨⟩⟩ := Option.bind_eq_some_iff.mp h
      rw [memberReadings, reading_of_json? first, memberReadings_of_json? others, named]
termination_by sizeOf members

end

/-- A text that stands for a value is read as that value, to its end. -/
theorem read_of_parse? {s : String} {v : Json} (h : parse? s = some v) :
    read s = (v.reading, true) ∧ v.reading.json? maxNesting = some v := by
  unfold parse? at h
  split at h
  · rename_i r whole
    have same := reading_of_json? h
    rw [whole, same]
    exact ⟨rfl, h⟩
  · cases h

mutual

theorem reading_wellFormed (v : Json) : v.reading.wellFormed = true := by
  match v with
  | .null | .bool _ | .number _ | .text _ => rfl
  | .array items =>
      rw [reading, Reading.wellFormed, itemReadings_wellFormed items]
      rfl
  | .object members =>
      rw [reading, Reading.wellFormed, memberReadings_wellFormed members]
      rfl
termination_by sizeOf v

theorem itemReadings_wellFormed (items : List Json) :
    Reading.allWellFormed (itemReadings items) = true := by
  match items with
  | [] => rfl
  | item :: items =>
      rw [itemReadings, Reading.allWellFormed, reading_wellFormed item,
        itemReadings_wellFormed items]
      rfl
termination_by sizeOf items

theorem memberReadings_wellFormed (members : List (String × Json)) :
    Reading.allMembersWellFormed (memberReadings members) = true := by
  match members with
  | [] => rfl
  | (name, value) :: members =>
      rw [memberReadings, Reading.allMembersWellFormed, reading_wellFormed value,
        memberReadings_wellFormed members]
      rfl
termination_by sizeOf members

end

end ClusterHarness.Json
