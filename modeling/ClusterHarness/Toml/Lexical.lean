import ClusterHarness.Text.Numeral

/-!
# Lexical parts of TOML

Blanks, comments and texts of a TOML document. Each reader gives what it read and what follows, or
nothing when the text is not well formed.
-/

namespace ClusterHarness.Toml

/-- A blank inside a line. -/
def isBlank (c : Char) : Bool := c == ' ' || c == '\t'

/-- What follows the blanks of a line. -/
def skipBlanks (s : List Char) : List Char := s.dropWhile isBlank

/-- A character that comments and texts may hold as it is. -/
def isPlain (c : Char) : Bool := c == '\t' || (0x20 ≤ c.toNat && c.toNat != 0x7f)

/-- The apostrophe, which encloses texts without escapes. -/
def apostrophe : Char := Char.ofNat 0x27

/-- What follows the end of a line. The end of the document ends its last line. -/
def endLine? : List Char → Option (List Char)
  | [] => some []
  | '\n' :: rest => some rest
  | '\r' :: '\n' :: rest => some rest
  | _ => none

/-- What follows the blanks, the comment and the end of a line. -/
def finishLine? (s : List Char) : Option (List Char) :=
  match skipBlanks s with
  | '#' :: rest => endLine? (rest.dropWhile isPlain)
  | rest => endLine? rest

/-- What follows blanks, comments and ends of lines. -/
def skipLines (comment : Bool) : List Char → List Char
  | [] => []
  | '\r' :: '\n' :: rest => skipLines false rest
  | c :: rest =>
    if c == '\n' then skipLines false rest
    else if comment then if isPlain c then skipLines true rest else c :: rest
    else if isBlank c then skipLines false rest
    else if c == '#' then skipLines true rest
    else c :: rest

/-- The value of a digit in a base up to sixteen. -/
def digitIn? (base : Nat) (c : Char) : Option Nat :=
  let value :=
    if '0' ≤ c && c ≤ '9' then c.toNat - 48
    else if 'a' ≤ c && c ≤ 'f' then c.toNat - 87
    else if 'A' ≤ c && c ≤ 'F' then c.toNat - 55
    else 16
  if value < base then some value else none

/-- The character of exactly `count` hexadecimal digits. -/
def codePoint? (count : Nat) (s : List Char) : Option (Char × List Char) := do
  let digits ← (s.take count).mapM (digitIn? 16)
  let n := digits.foldl (fun n d => n * 16 + d) 0
  if digits.length = count && n.isValidChar then some (Char.ofNat n, s.drop count) else none

/-- The character of an escape, behind its backslash. -/
def escape? : List Char → Option (Char × List Char)
  | 'b' :: rest => some (Char.ofNat 8, rest)
  | 't' :: rest => some ('\t', rest)
  | 'n' :: rest => some ('\n', rest)
  | 'f' :: rest => some (Char.ofNat 12, rest)
  | 'r' :: rest => some ('\r', rest)
  | '"' :: rest => some ('"', rest)
  | '\\' :: rest => some ('\\', rest)
  | 'u' :: rest => codePoint? 4 rest
  | 'U' :: rest => codePoint? 8 rest
  | _ => none

/-- Reads a text of one line behind its opening quote. Every character takes one unit of `fuel`. -/
def basicText? (fuel : Nat) (done : List Char) (s : List Char) : Option (String × List Char) :=
  match fuel, s with
  | 0, _ => none
  | _, [] => none
  | _ + 1, '"' :: rest => some (String.ofList done.reverse, rest)
  | fuel + 1, '\\' :: rest =>
    match escape? rest with
    | some (c, rest) => basicText? fuel (c :: done) rest
    | none => none
  | fuel + 1, c :: rest => if isPlain c then basicText? fuel (c :: done) rest else none

/-- Reads a text without escapes behind its opening apostrophe. -/
def literalText? (done : List Char) : List Char → Option (String × List Char)
  | [] => none
  | c :: rest =>
    if c == apostrophe then some (String.ofList done.reverse, rest)
    else if isPlain c then literalText? (c :: done) rest
    else none

/-- The end of a text of several lines: three marks, in front of which up to two more belong to the
text. Nothing when the text does not end here. -/
def closing? (mark : Char) (s : List Char) : Option (List Char × List Char) :=
  let marks := (s.takeWhile (· == mark)).length
  if marks < 3 then none
  else some (List.replicate (min 2 (marks - 3)) mark, s.drop (min 5 marks))

/-- Reads a text of several lines behind its opening quotes. A backslash at the end of a line leaves
out the end of the line and the blanks and lines behind it. -/
def longText? (fuel : Nat) (done : List Char) (s : List Char) : Option (String × List Char) :=
  match fuel, s with
  | 0, _ => none
  | _, [] => none
  | fuel + 1, '"' :: rest =>
    match closing? '"' ('"' :: rest) with
    | some (quotes, rest) => some (String.ofList (quotes ++ done).reverse, rest)
    | none => longText? fuel ('"' :: done) rest
  | fuel + 1, '\\' :: rest =>
    match skipBlanks rest with
    | '\n' :: after => longText? fuel done (skipGap after)
    | '\r' :: '\n' :: after => longText? fuel done (skipGap after)
    | _ =>
      match escape? rest with
      | some (c, rest) => longText? fuel (c :: done) rest
      | none => none
  | fuel + 1, '\n' :: rest => longText? fuel ('\n' :: done) rest
  | fuel + 1, '\r' :: '\n' :: rest => longText? fuel ('\n' :: done) rest
  | fuel + 1, c :: rest => if isPlain c then longText? fuel (c :: done) rest else none
where
  /-- What follows blanks and ends of lines. -/
  skipGap : List Char → List Char
    | [] => []
    | '\r' :: '\n' :: rest => skipGap rest
    | c :: rest => if c == '\n' || isBlank c then skipGap rest else c :: rest

/-- Reads a text of several lines without escapes behind its opening apostrophes. -/
def longLiteral? (fuel : Nat) (done : List Char) (s : List Char) : Option (String × List Char) :=
  match fuel, s with
  | 0, _ => none
  | _, [] => none
  | fuel + 1, '\n' :: rest => longLiteral? fuel ('\n' :: done) rest
  | fuel + 1, '\r' :: '\n' :: rest => longLiteral? fuel ('\n' :: done) rest
  | fuel + 1, c :: rest =>
    if c == apostrophe then
      match closing? apostrophe (c :: rest) with
      | some (marks, rest) => some (String.ofList (marks ++ done).reverse, rest)
      | none => longLiteral? fuel (c :: done) rest
    else if isPlain c then longLiteral? fuel (c :: done) rest
    else none

/-- What follows the end of a line that comes right behind the opening of a long text. -/
def skipFirstLine : List Char → List Char
  | '\n' :: rest => rest
  | '\r' :: '\n' :: rest => rest
  | s => s

/-- Reads a text of one line that a key or a value begins with. -/
def shortText? : List Char → Option (String × List Char)
  | '"' :: rest => basicText? (rest.length + 1) [] rest
  | c :: rest => if c == apostrophe then literalText? [] rest else none
  | [] => none

/-- Reads any text that a value begins with. -/
def text? : List Char → Option (String × List Char)
  | a :: b :: c :: rest =>
    if a == '"' && b == '"' && c == '"' then
      longText? (rest.length + 1) [] (skipFirstLine rest)
    else if a == apostrophe && b == apostrophe && c == apostrophe then
      longLiteral? (rest.length + 1) [] (skipFirstLine rest)
    else shortText? (a :: b :: c :: rest)
  | s => shortText? s

end ClusterHarness.Toml
