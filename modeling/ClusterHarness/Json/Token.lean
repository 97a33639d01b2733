import ClusterHarness.Json.Basic

/-!
# JSON tokens

A JSON text split into its tokens. The last token of a text that cannot be split is `malformed`.
Two kinds of token are well formed and still stand for no value: a number beyond the floating point
range, and a text that names half of a surrogate pair.
-/

namespace ClusterHarness.Json

/-- A piece of JSON text. -/
inductive Token where
  | openObject
  | closeObject
  | openArray
  | closeArray
  | colon
  | comma
  | null
  | bool (value : Bool)
  | number (value : Number)
  /-- A number too large for every number type. -/
  | hugeNumber
  | text (value : String)
  /-- A text with an escape for half of a surrogate pair. -/
  | brokenText
  | malformed
  deriving Repr, DecidableEq

namespace Token

/-- The blank characters between tokens. -/
def isSpace (c : Char) : Bool := c == ' ' || c == '\n' || c == '\t' || c == '\r'

/-- The value of a hexadecimal digit. -/
def hexValue? (c : Char) : Option Nat :=
  if '0' ≤ c && c ≤ '9' then some (c.toNat - 48)
  else if 'a' ≤ c && c ≤ 'f' then some (c.toNat - 87)
  else if 'A' ≤ c && c ≤ 'F' then some (c.toNat - 55)
  else none

/-- The value of four hexadecimal digits. -/
def hexFour? (a b c d : Char) : Option Nat := do
  let a ← hexValue? a
  let b ← hexValue? b
  let c ← hexValue? c
  let d ← hexValue? d
  return ((a * 16 + b) * 16 + c) * 16 + d

def escaped? (c : Char) : Option Char :=
  if c == '"' || c == '\\' || c == '/' then some c
  else if c == 'b' then some (Char.ofNat 8)
  else if c == 'f' then some (Char.ofNat 12)
  else if c == 'n' then some '\n'
  else if c == 'r' then some '\r'
  else if c == 't' then some '\t'
  else none

/-- The first half of a surrogate pair. -/
def isHighSurrogate (n : Nat) : Bool := 0xd800 ≤ n && n ≤ 0xdbff

/-- The second half of a surrogate pair. -/
def isLowSurrogate (n : Nat) : Bool := 0xdc00 ≤ n && n ≤ 0xdfff

def ofSurrogates (high low : Nat) : Char :=
  Char.ofNat (0x10000 + (high - 0xd800) * 0x400 + (low - 0xdc00))

/-- Reads the text behind an opening quote: the token, and what follows the closing quote. `done`
holds the characters read, the last one first, `high` the first half of a surrogate pair whose second
half is awaited, and `broken` tells that a half stood alone. -/
def readText (done : List Char) (high : Option Nat) (broken : Bool) :
    List Char → Token × List Char
  | [] => (.malformed, [])
  | '"' :: rest =>
    (if broken || high.isSome then .brokenText else .text (String.ofList done.reverse), rest)
  | '\\' :: 'u' :: a :: b :: c :: d :: rest =>
    match hexFour? a b c d, high with
    | none, _ => (.malformed, [])
    | some n, some first =>
      if isLowSurrogate n then readText (ofSurrogates first n :: done) none broken rest
      else readText done none true rest
    | some n, none =>
      if isHighSurrogate n then readText done (some n) broken rest
      else if isLowSurrogate n then readText done none true rest
      else readText (Char.ofNat n :: done) none broken rest
  | '\\' :: c :: rest =>
    match escaped? c with
    | none => (.malformed, [])
    | some c => readText (c :: done) none (broken || high.isSome) rest
  | c :: rest =>
    if c.toNat < 0x20 || c == '\\' then (.malformed, [])
    else readText (c :: done) none (broken || high.isSome) rest

/-- The digits that a text begins with, and what follows them. -/
def splitDigits (s : List Char) : List Char × List Char :=
  (s.takeWhile Text.isDigit, s.dropWhile Text.isDigit)

/-- A sign that a text may begin with, and what follows it. -/
def splitSign : List Char → Bool × List Char
  | '+' :: rest => (false, rest)
  | '-' :: rest => (true, rest)
  | s => (false, s)

/-- The digits of a fraction, if there is one. A point needs digits behind it. -/
def readFraction? : List Char → Option (List Char × List Char)
  | '.' :: rest =>
    if (splitDigits rest).1.isEmpty then none else some (splitDigits rest)
  | s => some ([], s)

/-- The value of the digits behind an exponent's sign. -/
def exponentValue (negative : Bool) (digits : List Char) : Int :=
  let size : Nat := digits.foldl (fun n d => n * 10 + (d.toNat - 48)) 0
  if negative then -(size : Int) else size

/-- The value of an exponent, if there is one. Its mark needs digits behind it. -/
def readExponent? : List Char → Option (Option Int × List Char)
  | [] => some (none, [])
  | c :: rest =>
    if c == 'e' || c == 'E' then
      let digits := splitDigits (splitSign rest).2
      if digits.1.isEmpty then none
      else some (some (exponentValue (splitSign rest).1 digits.1), digits.2)
    else some (none, c :: rest)

/-- The whole digits of a number. A leading zero stands alone. -/
def splitWhole : List Char → List Char × List Char
  | '0' :: rest => (['0'], rest)
  | s => splitDigits s

/-- Reads a number behind its sign. -/
def readNumber (negative : Bool) (s : List Char) : Token × List Char :=
  let (whole, rest) := splitWhole s
  if whole.isEmpty || (whole == ['0'] && rest.head?.any Text.isDigit) then (.malformed, [])
  else
    match readFraction? rest with
    | none => (.malformed, [])
    | some (fraction, rest) =>
      match readExponent? rest with
      | none => (.malformed, [])
      | some (exponent, rest) =>
        match Number.ofDigits? negative whole fraction exponent with
        | some n => (.number n, rest)
        | none => (.hugeNumber, rest)

/-- The first token of a text that does not begin with a blank, and what follows it. -/
def read : List Char → Token × List Char
  | '\x7b' :: rest => (.openObject, rest)
  | '\x7d' :: rest => (.closeObject, rest)
  | '[' :: rest => (.openArray, rest)
  | ']' :: rest => (.closeArray, rest)
  | ':' :: rest => (.colon, rest)
  | ',' :: rest => (.comma, rest)
  | 'n' :: 'u' :: 'l' :: 'l' :: rest => (.null, rest)
  | 't' :: 'r' :: 'u' :: 'e' :: rest => (.bool true, rest)
  | 'f' :: 'a' :: 'l' :: 's' :: 'e' :: rest => (.bool false, rest)
  | '"' :: rest => readText [] none false rest
  | '-' :: rest => readNumber true rest
  | s => readNumber false s

theorem readText_length_le (done : List Char) (high : Option Nat) (broken : Bool)
    (s : List Char) : (readText done high broken s).2.length ≤ s.length := by
  fun_induction readText done high broken s <;> simp_all <;> omega

theorem splitSign_length_le (s : List Char) : (splitSign s).2.length ≤ s.length := by
  unfold splitSign; split <;> simp

theorem readFraction?_length_le {s digits rest : List Char}
    (h : readFraction? s = some (digits, rest)) : rest.length ≤ s.length := by
  unfold readFraction? at h
  split at h
  · rename_i after
    have := (List.dropWhile_suffix (l := after) Text.isDigit).length_le
    split at h <;> simp_all [splitDigits]
    omega
  · simp_all

theorem readExponent?_length_le {s rest : List Char} {exponent : Option Int}
    (h : readExponent? s = some (exponent, rest)) : rest.length ≤ s.length := by
  unfold readExponent? at h
  split at h
  · simp_all
  · rename_i c after
    have sign := splitSign_length_le after
    have digits := (List.dropWhile_suffix (l := (splitSign after).2) Text.isDigit).length_le
    split at h
    · by_cases empty : (splitDigits (splitSign after).2).1.isEmpty
      · simp [empty] at h
      · simp only [empty, Bool.false_eq_true, if_false, Option.some.injEq, Prod.mk.injEq] at h
        rw [← h.2, List.length_cons]
        exact Nat.le_succ_of_le (Nat.le_trans digits sign)
    · simp_all

theorem splitWhole_length (s : List Char) :
    (splitWhole s).1.length + (splitWhole s).2.length = s.length := by
  unfold splitWhole
  split
  · simp; omega
  · rw [splitDigits, ← List.length_append, List.takeWhile_append_dropWhile]

theorem readNumber_length_le (negative : Bool) (s : List Char) :
    (readNumber negative s).2.length ≤ s.length := by
  have whole := splitWhole_length s
  unfold readNumber
  split
  rename_i digits rest hs
  rw [hs] at whole
  simp only at whole
  split
  · simp
  · split
    · simp
    · rename_i fraction afterPoint hp
      have := readFraction?_length_le hp
      split
      · simp
      · rename_i exponent afterMark he
        have := readExponent?_length_le he
        split <;> simp only <;> omega

theorem readNumber_length_lt (negative : Bool) (c : Char) (s : List Char) :
    (readNumber negative (c :: s)).2.length < (c :: s).length := by
  have whole := splitWhole_length (c :: s)
  unfold readNumber
  split
  rename_i digits rest hs
  rw [hs] at whole
  simp only at whole
  split
  · simp
  · rename_i ne
    have : digits.length ≠ 0 := by
      intro h; apply ne; simp [List.length_eq_zero_iff.1 h]
    split
    · simp
    · rename_i fraction afterPoint hp
      have := readFraction?_length_le hp
      split
      · simp
      · rename_i exponent afterMark he
        have := readExponent?_length_le he
        split <;> simp only <;> omega

/-- A token takes at least one character. -/
theorem read_length_lt (s : List Char) (h : s ≠ []) : (read s).2.length < s.length := by
  unfold read
  split <;> (try simp only [List.length_cons]) <;> (try omega)
  · exact Nat.lt_succ_of_le (readText_length_le [] none false _)
  · exact Nat.lt_succ_of_le (readNumber_length_le true _)
  · obtain ⟨c, rest, rfl⟩ := List.exists_cons_of_ne_nil h
    exact readNumber_length_lt false c rest

end Token

def tokens : List Char → List Token
  | [] => []
  | c :: rest =>
    if Token.isSpace c then tokens rest
    else
      have := Token.read_length_lt (c :: rest) (List.cons_ne_nil c rest)
      (Token.read (c :: rest)).1 :: tokens (Token.read (c :: rest)).2
termination_by s => s.length
decreasing_by
  all_goals simp_all

end ClusterHarness.Json
