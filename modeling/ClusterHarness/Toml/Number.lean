import ClusterHarness.Toml.Lexical
import ClusterHarness.Toml.Table

/-!
# Numbers in TOML

Integers of 64 bits in four bases, and floating point numbers. Digits may have single underscores
between them.
-/

namespace ClusterHarness.Toml

/-- Digits behind a first one, each with at most one underscore in front of it. -/
def moreDigits? (isDigit : Char → Bool) : List Char → Option (List Char × List Char)
  | [] => some ([], [])
  | '_' :: c :: rest =>
    if isDigit c then (moreDigits? isDigit rest).map fun (digits, rest) => (c :: digits, rest)
    else none
  | c :: rest =>
    if c == '_' then none
    else if isDigit c then
      (moreDigits? isDigit rest).map fun (digits, rest) => (c :: digits, rest)
    else some ([], c :: rest)

def digits? (isDigit : Char → Bool) : List Char → Option (List Char × List Char)
  | [] => none
  | c :: rest =>
    if isDigit c then (moreDigits? isDigit rest).map fun (digits, rest) => (c :: digits, rest)
    else none

def valueIn (base : Nat) (digits : List Char) : Nat :=
  digits.foldl (fun n d => n * base + (digitIn? base d).getD 0) 0

/-- An integer in another base than ten, behind its mark. -/
def basedInteger? (base : Nat) (s : List Char) : Option (Item × List Char) := do
  let (digits, rest) ← digits? (fun c => (digitIn? base c).isSome) s
  let n := valueIn base digits
  if n ≤ Text.maxI64 then some (.integer n, rest) else none

/-- The whole digits of a decimal number. Only zero itself begins with a zero. -/
def wholeDigits? (s : List Char) : Option (List Char × List Char) :=
  match s with
  | '0' :: rest => some (['0'], rest)
  | s => digits? Text.isDigit s

/-- A fraction, if there is one. -/
def fractionDigits? : List Char → Option (List Char × List Char)
  | '.' :: rest => digits? Text.isDigit rest
  | s => some ([], s)

/-- An exponent, if there is one. -/
def exponent? : List Char → Option (Option Int × List Char)
  | [] => some (none, [])
  | c :: rest =>
    if c == 'e' || c == 'E' then
      let (negative, rest) := match rest with
        | '+' :: rest => (false, rest)
        | '-' :: rest => (true, rest)
        | rest => (false, rest)
      (digits? Text.isDigit rest).map fun (digits, rest) =>
        let size : Int := valueIn 10 digits
        (some (if negative then -size else size), rest)
    else some (none, c :: rest)

/-- A decimal number behind its sign. No floating point number is above the range. -/
def decimal? (negative : Bool) (s : List Char) : Option (Item × List Char) := do
  let (whole, s) ← wholeDigits? s
  let (fraction, s) ← fractionDigits? s
  let (exponent, s) ← exponent? s
  if fraction.isEmpty && exponent.isNone then
    let n := valueIn 10 whole
    if negative then if n ≤ Text.leastI64 then some (.integer (-(n : Int)), s) else none
    else if n ≤ Text.maxI64 then some (.integer n, s) else none
  else
    let digits := whole ++ fraction
    let value := Binary64.ofDecimal negative (valueIn 10 digits) digits.length
      (exponent.getD 0 - fraction.length)
    if value = .infinite false then none else some (.real value, s)

/-- A number behind its sign. -/
def unsigned? (negative : Bool) : List Char → Option (Item × List Char)
  | 'i' :: 'n' :: 'f' :: rest => some (.real (.infinite negative), rest)
  | 'n' :: 'a' :: 'n' :: rest => some (.real .nan, rest)
  | s => decimal? negative s

def number? : List Char → Option (Item × List Char)
  | '0' :: 'x' :: rest => basedInteger? 16 rest
  | '0' :: 'o' :: rest => basedInteger? 8 rest
  | '0' :: 'b' :: rest => basedInteger? 2 rest
  | '+' :: rest => unsigned? false rest
  | '-' :: rest => unsigned? true rest
  | s => unsigned? false s

end ClusterHarness.Toml
