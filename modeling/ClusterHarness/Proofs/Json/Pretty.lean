import ClusterHarness.Proofs.Json.Reading

/-! # Reading the pretty layout

The pretty layout differs from the compact one in blanks between tokens only, so it falls into the same
tokens and is read as the same value.
-/

namespace ClusterHarness.Json

open Token

mutual

theorem tokens_prettyChars (v : Json) (level : Nat) {rest : List Char} (plain : v.isPlain = true)
    (ends : Ends rest) : tokens (v.prettyChars level ++ rest) = v.valueTokens ++ tokens rest := by
  match v with
  | .null => exact tokens_cons rfl rfl
  | .bool b => cases b <;> exact tokens_cons rfl rfl
  | .number n => exact tokens_number ends plain
  | .text s => exact tokens_textChars s
  | .array [] => exact tokens_openArray.trans (congrArg _ tokens_closeArray)
  | .array (item :: items) =>
      have inner := tokens_prettyItems (item :: items) (level + 1) plain
        (ends_newLine level (']' :: rest))
      simp only [prettyChars, valueTokens, List.cons_append, List.append_assoc, List.nil_append,
        tokens_openArray, inner, tokens_newLine, tokens_closeArray]
  | .object [] => exact tokens_openObject.trans (congrArg _ tokens_closeObject)
  | .object (member :: members) =>
      have inner := tokens_prettyMembers (member :: members) (level + 1) plain
        (ends_newLine level ('\x7d' :: rest))
      simp only [prettyChars, valueTokens, List.cons_append, List.append_assoc, List.nil_append,
        tokens_openObject, inner, tokens_newLine, tokens_closeObject]
termination_by sizeOf v

theorem tokens_prettyItems (items : List Json) (level : Nat) {rest : List Char}
    (plain : allPlain items = true) (ends : Ends rest) :
    tokens (prettyItems level items ++ rest) = itemTokens items ++ tokens rest := by
  match items, plain with
  | [], _ => rfl
  | [item], plain =>
      rw [allPlain, Bool.and_eq_true] at plain
      simp only [prettyItems, itemTokens, List.append_assoc, tokens_newLine,
        tokens_prettyChars item level plain.1 ends]
  | item :: next :: items, plain =>
      rw [allPlain, Bool.and_eq_true] at plain
      have others := tokens_prettyItems (next :: items) level plain.2 ends
      have first := tokens_prettyChars item level plain.1
        (ends_cons (prettyItems level (next :: items) ++ rest) (.inl rfl))
      simp only [prettyItems, itemTokens, List.append_assoc, List.cons_append, tokens_newLine]
        at others first ⊢
      rw [first, tokens_comma, others]
termination_by sizeOf items

theorem tokens_prettyMembers (members : List (String × Json)) (level : Nat) {rest : List Char}
    (plain : allMembersPlain members = true) (ends : Ends rest) :
    tokens (prettyMembers level members ++ rest) = memberTokens members ++ tokens rest := by
  match members, plain with
  | [], _ => rfl
  | [(name, value)], plain =>
      rw [allMembersPlain, Bool.and_eq_true] at plain
      have content := tokens_prettyChars value level plain.1 ends
      simp only [prettyMembers, memberTokens, List.append_assoc, List.cons_append, tokens_newLine,
        tokens_textChars, tokens_colon, tokens_space (show isSpace ' ' = true from rfl), content]
  | (name, value) :: next :: members, plain =>
      rw [allMembersPlain, Bool.and_eq_true] at plain
      have others := tokens_prettyMembers (next :: members) level plain.2 ends
      have first := tokens_prettyChars value level plain.1
        (ends_cons (prettyMembers level (next :: members) ++ rest) (.inl rfl))
      simp only [prettyMembers, memberTokens, List.append_assoc, List.cons_append, tokens_newLine,
        tokens_textChars, tokens_colon, tokens_space (show isSpace ' ' = true from rfl)]
        at others first ⊢
      rw [first, tokens_comma, others]
termination_by sizeOf members

end

theorem read_pretty {v : Json} (plain : v.isPlain = true) : read v.pretty = (v.reading, true) := by
  have split : tokens (v.prettyChars 0 ++ []) = _ := tokens_prettyChars v 0 plain nofun
  apply read_of_tokens
  rw [List.append_nil] at split
  rw [pretty, String.toList_ofList, split, tokens, List.append_nil]

end ClusterHarness.Json
