import ClusterHarness.Json.Printer
import ClusterHarness.Json.Token
import ClusterHarness.Proofs.Text.Numeral

/-! # The tokens of printed JSON

What is printed falls into the tokens that it was printed from, whatever follows. A number needs
something behind it that does not go on with it.
-/

namespace ClusterHarness.Json

namespace Token

/-! ## Texts -/

section

variable {done rest : List Char} {c : Char}

theorem readText_quote : readText done none false ('"' :: rest) =
    (.text (String.ofList done.reverse), rest) := by
  simp [readText]

theorem readText_escaped {e : Char} (h : escaped? e = some c) (letter : e ≠ 'u') :
    readText done none false ('\\' :: e :: rest) = readText (c :: done) none false rest := by
  rw [readText]
  · simp [h]
  · rintro a b c d rest rfl
    exact absurd rfl letter

theorem readText_unicode {w x y z : Char} {n : Nat} (h : hexFour? w x y z = some n) (small : n < 0xd800) :
    readText done none false ('\\' :: 'u' :: w :: x :: y :: z :: rest) =
      readText (Char.ofNat n :: done) none false rest := by
  have high : isHighSurrogate n = false := by simp [isHighSurrogate]; omega
  have low : isLowSurrogate n = false := by simp [isLowSurrogate]; omega
  simp [readText, h, high, low]

theorem readText_plain (quote : c ≠ '"') (backslash : c ≠ '\\') (control : 0x20 ≤ c.toNat) :
    readText done none false (c :: rest) = readText (c :: done) none false rest := by
  rw [readText]
  · have inside : ¬ c.toNat < 0x20 := Nat.not_lt.mpr control
    simp [backslash, inside]
  · exact quote
  · rintro w x y z rest rfl
    exact absurd rfl backslash
  · rintro e rest rfl
    exact absurd rfl backslash

theorem hexFour?_control {n : Nat} (h : n < 0x20) :
    hexFour? '0' '0' (Text.hexDigit (n / 16)) (Text.hexDigit (n % 16)) = some n := by
  have all : ∀ n < 0x20,
      hexFour? '0' '0' (Text.hexDigit (n / 16)) (Text.hexDigit (n % 16)) = some n := by
    decide +kernel
  exact all n h

theorem readText_escapeChar (c : Char) :
    readText done none false (escapeChar c ++ rest) = readText (c :: done) none false rest := by
  simp only [escapeChar, beq_iff_eq]
  split
  · rename_i quote
    subst quote
    exact readText_escaped rfl (by decide)
  split
  · rename_i backslash
    subst backslash
    exact readText_escaped rfl (by decide)
  split
  · rename_i line
    subst line
    exact readText_escaped rfl (by decide)
  split
  · rename_i feed
    subst feed
    exact readText_escaped rfl (by decide)
  split
  · rename_i tab
    subst tab
    exact readText_escaped rfl (by decide)
  split
  · rename_i back
    rw [← Char.ofNat_toNat c, back]
    exact readText_escaped rfl (by decide)
  split
  · rename_i page
    rw [← Char.ofNat_toNat c, page]
    exact readText_escaped rfl (by decide)
  split
  · rename_i control
    exact (readText_unicode (hexFour?_control control) (by omega)).trans (by rw [Char.ofNat_toNat]; rfl)
  · rename_i quote backslash _ _ _ _ _ control
    exact readText_plain quote backslash (Nat.not_lt.mp control)

theorem readText_flatMap (cs : List Char) :
    readText done none false (cs.flatMap escapeChar ++ '"' :: rest) =
      (.text (String.ofList (done.reverse ++ cs)), rest) := by
  induction cs generalizing done with
  | nil => simpa using readText_quote
  | cons c cs ih =>
      rw [List.flatMap_cons, List.append_assoc, readText_escapeChar, ih]
      simp

theorem read_textChars (s : String) : read (textChars s ++ rest) = (.text s, rest) := by
  have read := @readText_flatMap [] rest s.toList
  rw [List.reverse_nil, List.nil_append, String.ofList_toList] at read
  simpa [textChars, Token.read] using read

end

/-! ## Numbers -/

/-- Whether a text does not go on with a number that it stands behind. -/
def Ends (rest : List Char) : Prop :=
  ∀ c ∈ rest.head?, Text.isDigit c = false ∧ c ≠ '.' ∧ c ≠ 'e' ∧ c ≠ 'E'

section

variable {rest : List Char}

theorem splitDigits_append {digits : List Char} (h : ∀ c ∈ digits, Text.isDigit c = true)
    (ends : Ends rest) : splitDigits (digits ++ rest) = (digits, rest) := by
  have other : rest.takeWhile Text.isDigit = [] ∧ rest.dropWhile Text.isDigit = rest := by
    cases rest with
    | nil => exact ⟨rfl, rfl⟩
    | cons c rest =>
        have digit := (ends c rfl).1
        simp [digit]
  rw [splitDigits, List.takeWhile_append_of_pos h, List.dropWhile_append_of_pos h, other.1, other.2,
    List.append_nil]

theorem splitWhole_decimal (n : Nat) (ends : Ends rest) :
    splitWhole (Text.decimal n ++ rest) = (Text.decimal n, rest) := by
  by_cases zero : n = 0
  · rw [zero, Text.decimal_zero]
    rfl
  · obtain ⟨c, more, front, other⟩ := Text.decimal_eq_cons zero
    have digits : splitDigits (Text.decimal n ++ rest) = (Text.decimal n, rest) :=
      splitDigits_append (fun _ h => Text.isDigit_of_mem_decimal h) ends
    rw [front, List.cons_append] at digits ⊢
    rw [splitWhole, digits]
    rintro after ⟨⟩
    exact other rfl

theorem readFraction?_of_ends (ends : Ends rest) : readFraction? rest = some ([], rest) := by
  rw [readFraction?]
  rintro after rfl
  exact absurd rfl (ends '.' rfl).2.1

theorem readExponent?_of_ends (ends : Ends rest) : readExponent? rest = some (none, rest) := by
  cases rest with
  | nil => rfl
  | cons c rest =>
      obtain ⟨-, -, small, large⟩ := ends c rfl
      simp [readExponent?, small, large]

theorem readWhole_of_le {digits : List Char} {value : Nat}
    (h : Text.digitsValue value digits ≤ Text.maxU64) :
    Significand.readWhole value digits = ⟨Text.digitsValue value digits, 0⟩ := by
  induction digits generalizing value with
  | nil => rfl
  | cons c digits ih =>
      rw [Text.digitsValue, List.foldl_cons] at h ⊢
      have next := Nat.le_trans (Text.le_digitsValue (value * 10 + (c.toNat - 48)) digits) h
      rw [Significand.readWhole, if_neg (Nat.not_lt.mpr next)]
      exact ih h

/-- A numeral behind its sign, when the number that it stands for is held exactly. -/
theorem readNumber_decimal {negative : Bool} {n : Nat} (ends : Ends rest) (fits : n ≤ Text.maxU64)
    (sign : negative = true → 0 < n ∧ n ≤ Text.leastI64) :
    readNumber negative (Text.decimal n ++ rest) =
      (.number (.integer (if negative then -(n : Int) else n)), rest) := by
  have value : Significand.readWhole 0 (Text.decimal n) = ⟨n, 0⟩ := by
    rw [readWhole_of_le (by rwa [Text.digitsValue_decimal]), Text.digitsValue_decimal]
  have exact : Number.ofDigits? negative (Text.decimal n) [] none =
      some (.integer (if negative then -(n : Int) else n)) := by
    cases negative with
    | false => simp [Number.ofDigits?, value]
    | true =>
        obtain ⟨positive, small⟩ := sign rfl
        simp [Number.ofDigits?, value, positive, small]
  have some : (Text.decimal n).isEmpty = false := by
    simpa using Text.decimal_ne_nil n
  have single : (Text.decimal n == ['0'] && rest.head?.any Text.isDigit) = false := by
    cases rest with
    | nil => simp
    | cons c rest => simp [(ends c rfl).1]
  rw [readNumber, splitWhole_decimal n ends]
  simp only [some, single, Bool.or_self, Bool.false_eq_true, ↓reduceIte, readFraction?_of_ends ends,
    readExponent?_of_ends ends, exact]

theorem read_of_digit {c : Char} (digit : Text.isDigit c = true) :
    read (c :: rest) = readNumber false (c :: rest) := by
  rw [read]
  -- None of the characters that another token begins with is a digit.
  all_goals
    rintro more ⟨⟩
    exact absurd digit (by decide)

end

end Token

/-! ## All tokens -/

def Number.isPlain : Number → Bool
  | .integer n => -(Text.leastI64 : Int) ≤ n && n ≤ Text.maxU64
  | .real _ => false

mutual

/-- Whether all numbers of a value are integers that fit 64 bits. -/
def isPlain : Json → Bool
  | .null | .bool _ | .text _ => true
  | .number n => n.isPlain
  | .array items => allPlain items
  | .object members => allMembersPlain members

def allPlain : List Json → Bool
  | [] => true
  | item :: rest => item.isPlain && allPlain rest

def allMembersPlain : List (String × Json) → Bool
  | [] => true
  | (_, value) :: rest => value.isPlain && allMembersPlain rest

end

mutual

def valueTokens : Json → List Token
  | .null => [.null]
  | .bool b => [.bool b]
  | .number n => [.number n]
  | .text s => [.text s]
  | .array items => .openArray :: itemTokens items ++ [.closeArray]
  | .object members => .openObject :: memberTokens members ++ [.closeObject]

def itemTokens : List Json → List Token
  | [] => []
  | [item] => item.valueTokens
  | item :: rest => item.valueTokens ++ .comma :: itemTokens rest

def memberTokens : List (String × Json) → List Token
  | [] => []
  | [(name, value)] => .text name :: .colon :: value.valueTokens
  | (name, value) :: rest =>
    .text name :: .colon :: value.valueTokens ++ .comma :: memberTokens rest

end

open Token

section

variable {rest : List Char}

theorem tokens_cons {c : Char} {s : List Char} {t : Token} (h : Token.read (c :: s) = (t, rest))
    (space : isSpace c = false) : tokens (c :: s) = t :: tokens rest := by
  rw [tokens]
  simp [space, h]

theorem tokens_space {c : Char} (space : isSpace c = true) : tokens (c :: rest) = tokens rest := by
  rw [tokens]
  simp [space]

theorem tokens_openArray : tokens ('[' :: rest) = .openArray :: tokens rest := tokens_cons rfl rfl

theorem tokens_closeArray : tokens (']' :: rest) = .closeArray :: tokens rest := tokens_cons rfl rfl

theorem tokens_openObject : tokens ('\x7b' :: rest) = .openObject :: tokens rest :=
  tokens_cons rfl rfl

theorem tokens_closeObject : tokens ('\x7d' :: rest) = .closeObject :: tokens rest :=
  tokens_cons rfl rfl

theorem tokens_colon : tokens (':' :: rest) = .colon :: tokens rest := tokens_cons rfl rfl

theorem tokens_comma : tokens (',' :: rest) = .comma :: tokens rest := tokens_cons rfl rfl

theorem tokens_textChars (s : String) : tokens (textChars s ++ rest) = .text s :: tokens rest :=
  tokens_cons (read_textChars s) rfl

theorem isSpace_of_digit {c : Char} (digit : Text.isDigit c = true) : isSpace c = false := by
  cases space : isSpace c with
  | false => rfl
  | true =>
      simp only [isSpace, Bool.or_eq_true, beq_iff_eq] at space
      rcases space with ((rfl | rfl) | rfl) | rfl <;> exact absurd digit (by decide)

theorem tokens_decimal (n : Nat) (ends : Ends rest) (fits : n ≤ Text.maxU64) :
    tokens (Text.decimal n ++ rest) = .number (.integer n) :: tokens rest := by
  obtain ⟨c, more, front⟩ := List.exists_cons_of_ne_nil (Text.decimal_ne_nil n)
  have digit : Text.isDigit c = true :=
    Text.isDigit_of_mem_decimal (show c ∈ Text.decimal n by simp [front])
  have number : readNumber false (Text.decimal n ++ rest) = _ := readNumber_decimal ends fits nofun
  rw [front, List.cons_append] at number ⊢
  exact tokens_cons ((read_of_digit digit).trans number) (isSpace_of_digit digit)

theorem tokens_number {n : Number} (ends : Ends rest) (plain : n.isPlain = true) :
    tokens (n.text.toList ++ rest) = .number n :: tokens rest := by
  cases n with
  | real v => cases plain
  | integer n =>
      simp only [Number.isPlain, Bool.and_eq_true, decide_eq_true_eq] at plain
      cases n with
      | ofNat n =>
          have fits : n ≤ Text.maxU64 := Int.ofNat_le.mp plain.2
          simpa [Number.text, Text.intText, Text.natText] using tokens_decimal n ends fits
      | negSucc n =>
          have small : n + 1 ≤ Text.leastI64 := by omega
          have fits : n + 1 ≤ Text.maxU64 := Nat.le_trans small (by decide)
          have number : readNumber true (Text.decimal (n + 1) ++ rest) =
              (.number (.integer (.negSucc n)), rest) :=
            readNumber_decimal ends fits fun _ => ⟨Nat.succ_pos n, small⟩
          have written : (Number.integer (.negSucc n)).text.toList = '-' :: Text.decimal (n + 1) := by
            simp [Number.text, Text.intText, Text.natText]
          rw [written, List.cons_append]
          exact tokens_cons number rfl

theorem ends_cons (rest : List Char) {c : Char} (h : c = ',' ∨ c = ']' ∨ c = '\x7d') : Ends (c :: rest) := by
  rintro d ⟨⟩
  rcases h with rfl | rfl | rfl <;> decide

theorem ends_newLine (level : Nat) (rest : List Char) : Ends (newLine level ++ rest) := by
  rintro d ⟨⟩
  decide

/-- The end of a line and the blanks in front of the next one stand for nothing. -/
theorem tokens_newLine (level : Nat) : tokens (newLine level ++ rest) = tokens rest := by
  have blanks (n : Nat) : tokens (List.replicate n ' ' ++ rest) = tokens rest := by
    induction n with
    | zero => rfl
    | succ n ih => exact (tokens_space rfl).trans ih
  exact (tokens_space rfl).trans (blanks (2 * level))

end

mutual

/-- The compact layout falls into the tokens of the value. -/
theorem tokens_compactChars (v : Json) {rest : List Char} (plain : v.isPlain = true)
    (ends : Ends rest) : tokens (v.compactChars ++ rest) = v.valueTokens ++ tokens rest := by
  cases v with
  | null => exact tokens_cons rfl rfl
  | bool b => cases b <;> exact tokens_cons rfl rfl
  | number n => exact tokens_number ends plain
  | text s => exact tokens_textChars s
  | array items =>
      have inner := tokens_compactItems items plain (ends_cons rest (.inr (.inl rfl)))
      simp only [compactChars, valueTokens, List.cons_append, List.append_assoc, List.nil_append,
        tokens_openArray, inner, tokens_closeArray]
  | object members =>
      have inner := tokens_compactMembers members plain (ends_cons rest (.inr (.inr rfl)))
      simp only [compactChars, valueTokens, List.cons_append, List.append_assoc, List.nil_append,
        tokens_openObject, inner, tokens_closeObject]
termination_by sizeOf v

theorem tokens_compactItems (items : List Json) {rest : List Char} (plain : allPlain items = true)
    (ends : Ends rest) :
    tokens (compactItems items ++ rest) = itemTokens items ++ tokens rest := by
  match items, plain with
  | [], _ => rfl
  | [item], plain =>
      rw [allPlain, Bool.and_eq_true] at plain
      exact tokens_compactChars item plain.1 ends
  | item :: next :: items, plain =>
      rw [allPlain, Bool.and_eq_true] at plain
      have others := tokens_compactItems (next :: items) plain.2 ends
      have first := tokens_compactChars item plain.1
        (ends_cons (compactItems (next :: items) ++ rest) (.inl rfl))
      simp only [compactItems, itemTokens, List.append_assoc, List.cons_append] at others first ⊢
      rw [first, tokens_comma, others]
termination_by sizeOf items

theorem tokens_compactMembers (members : List (String × Json)) {rest : List Char}
    (plain : allMembersPlain members = true) (ends : Ends rest) :
    tokens (compactMembers members ++ rest) = memberTokens members ++ tokens rest := by
  match members, plain with
  | [], _ => rfl
  | [(name, value)], plain =>
      rw [allMembersPlain, Bool.and_eq_true] at plain
      simp only [compactMembers, memberTokens, List.append_assoc, List.cons_append, tokens_textChars,
        tokens_colon, tokens_compactChars value plain.1 ends]
  | (name, value) :: next :: members, plain =>
      rw [allMembersPlain, Bool.and_eq_true] at plain
      have others := tokens_compactMembers (next :: members) plain.2 ends
      have first := tokens_compactChars value plain.1
        (ends_cons (compactMembers (next :: members) ++ rest) (.inl rfl))
      simp only [compactMembers, memberTokens, List.append_assoc, List.cons_append, tokens_textChars,
        tokens_colon] at others first ⊢
      rw [first, tokens_comma, others]
termination_by sizeOf members

end

end ClusterHarness.Json
