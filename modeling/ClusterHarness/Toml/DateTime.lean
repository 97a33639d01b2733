import ClusterHarness.Toml.Lexical

/-!
# Dates and times in TOML

Dates, times and both together, read into their plain text: a `T` between date and time, no zeros at
the end of a fraction of a second, at most nine digits of it, and `Z` or a signed offset. A table may
stand for a date too, which it then holds as a text.
-/

namespace ClusterHarness.Toml

/-- Reads exactly `count` decimal digits. -/
def fixedDigits? (count : Nat) (s : List Char) : Option (Nat × List Char) :=
  let digits := s.take count
  if digits.length = count && digits.all Text.isDigit then
    some (digits.foldl (fun n d => n * 10 + (d.toNat - 48)) 0, s.drop count)
  else none

/-- Reads two digits of at most `bound`. -/
def twoDigits? (bound : Nat) (s : List Char) : Option (Nat × List Char) :=
  match fixedDigits? 2 s with
  | some (n, rest) => if n ≤ bound then some (n, rest) else none
  | none => none

def mark? (c : Char) : List Char → Option (List Char)
  | d :: rest => if d == c then some rest else none
  | [] => none

/-- A number with zeros in front of it, `width` digits in all. -/
def padded (width n : Nat) : List Char :=
  let digits := Text.decimal n
  List.replicate (width - digits.length) '0' ++ digits

def monthDays (year month : Nat) : Nat :=
  if month = 2 then
    if year % 4 = 0 && (year % 100 != 0 || year % 400 = 0) then 29 else 28
  else if month ∈ [4, 6, 9, 11] then 30
  else 31

def date? (s : List Char) : Option (List Char × List Char) := do
  let (year, s) ← fixedDigits? 4 s
  let s ← mark? '-' s
  let (month, s) ← twoDigits? 12 s
  let s ← mark? '-' s
  let (day, s) ← twoDigits? 31 s
  if 1 ≤ month && 1 ≤ day && day ≤ monthDays year month then
    some (padded 4 year ++ '-' :: padded 2 month ++ '-' :: padded 2 day, s)
  else none

/-- The fraction of a second, at most nine digits of it and without zeros at its end. -/
def fraction (digits : List Char) : List Char :=
  let kept := ((digits.take 9).reverse.dropWhile (· == '0')).reverse
  if kept.isEmpty then [] else '.' :: kept

/-- Reads a time of day. -/
def time? (s : List Char) : Option (List Char × List Char) := do
  let (hour, s) ← twoDigits? 23 s
  let s ← mark? ':' s
  let (minute, s) ← twoDigits? 59 s
  let s ← mark? ':' s
  let (second, s) ← twoDigits? 60 s
  let clock := padded 2 hour ++ ':' :: padded 2 minute ++ ':' :: padded 2 second
  match s with
  | '.' :: rest =>
    let digits := rest.takeWhile Text.isDigit
    if digits.isEmpty then none else some (clock ++ fraction digits, rest.drop digits.length)
  | s => some (clock, s)

/-- Reads the offset of a time, if there is one. -/
def offset? (s : List Char) : Option (List Char × List Char) :=
  match s with
  | 'Z' :: rest | 'z' :: rest => some (['Z'], rest)
  | c :: rest =>
    if c == '+' || c == '-' then do
      let (hours, rest) ← twoDigits? 23 rest
      let rest ← mark? ':' rest
      let (minutes, rest) ← twoDigits? 59 rest
      let sign := if c == '-' && hours + minutes != 0 then '-' else '+'
      some (sign :: padded 2 hours ++ ':' :: padded 2 minutes, rest)
    else some ([], s)
  | [] => some ([], [])

/-- Reads a date, a time, or both with an offset. -/
def dateTime? (s : List Char) : Option (List Char × List Char) :=
  match date? s with
  | none => time? s
  | some (date, rest) =>
    match rest with
    | c :: after =>
      if c == 'T' || c == 't' || c == ' ' then
        match time? after with
        | some (time, after) =>
          (offset? after).map fun (offset, after) => (date ++ 'T' :: time ++ offset, after)
        | none => some (date, rest)
      else some (date, rest)
    | [] => some (date, [])

def dateOfText? (s : String) : Option String :=
  match dateTime? s.toList with
  | some (date, []) => some (String.ofList date)
  | _ => none

/-- The key of the text in a table that stands for a date. It has to be the first one, and those
behind it say nothing. -/
def dateKey : String := "$__toml_private_datetime"

end ClusterHarness.Toml
