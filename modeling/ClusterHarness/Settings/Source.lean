import ClusterHarness.Files
import ClusterHarness.Settings.Fault
import ClusterHarness.Settings.Tree
import ClusterHarness.Toml.Document

/-!
# Sources of settings

Where layers of settings come from: documents, files and environment variables.
-/

namespace ClusterHarness.Settings

mutual

/-- A value of a document as a setting that was read at a place. A table that stands for a date has to
hold one. -/
def ofItem? (origin : Option String) : Toml.Item → Option Setting
  | .bool b => some (.scalar origin (.bool b))
  | .integer n => some (.scalar origin (.integer n))
  | .real v => some (.scalar origin (.real v))
  | .text s => some (.scalar origin (.text s))
  | .date s => some (.scalar origin (.text s))
  | .list items => (ofItems? origin items).map (.list origin)
  | .table _ entries => ofTable? origin entries
  | .tables elements => (ofElements? origin elements).map (.list origin)

def ofItems? (origin : Option String) : List Toml.Item → Option (List Setting)
  | [] => some []
  | item :: rest => do return (← ofItem? origin item) :: (← ofItems? origin rest)

def ofTable? (origin : Option String) : List (String × Toml.Item) → Option Setting
  | [] => some (.table origin [])
  | (key, item) :: rest =>
    if key = Toml.dateKey then
      match item with
      | .text s => (Toml.dateOfText? s).map fun date => .scalar origin (.text date)
      | _ => none
    else do return .table origin ((key, ← ofItem? origin item) :: (← ofEntries? origin rest))

def ofEntries? (origin : Option String) :
    List (String × Toml.Item) → Option (List (String × Setting))
  | [] => some []
  | (key, item) :: rest => do return (key, ← ofItem? origin item) :: (← ofEntries? origin rest)

/-- The tables of a list of tables. -/
def ofElements? (origin : Option String) :
    List (List (String × Toml.Item)) → Option (List Setting)
  | [] => some []
  | entries :: rest => do return (← ofTable? origin entries) :: (← ofElements? origin rest)

end

def ofDocument (origin : Option String) (text : String) : Except Fault Layer :=
  match (Toml.document? text).bind (ofTable? origin) with
  | some (.table _ entries) => .ok entries
  | _ => .error .unreadable

/-! ## Files -/

def pathParts (path : String) : List String :=
  (Files.parts path).filter fun part => part != "" && part != "."

/-- How a file that was found from the current folder is named. -/
def originText (path : String) : String := String.intercalate "/" (pathParts path)

/-- What stands behind the last dot of a file name that does not begin with it. -/
def extension? (path : String) : Option String := do
  let name ← (pathParts path).getLast?
  let back := name.toList.reverse
  let ending := back.takeWhile (· != '.')
  if ending.length + 1 < back.length then some (String.ofList ending.reverse) else none

/-- The path with the extension of a document added to its file name. -/
def withExtension? (path : String) : Option String :=
  match (pathParts path).getLast? with
  | none | some ".." => none
  | some _ =>
    some ((if Files.isAbsolute path then "/" else "") ++ originText path ++ ".toml")

/-- Reads the layer of a file. The name is taken as it is if there is a file of that name, whose
extension then has to be that of a document; otherwise the extension is added to it. `folder` is the
absolute path of the current folder. -/
def ofFile (files : Files) (folder name : String) : Except Fault Layer :=
  match files.text? name with
  | some text =>
    if extension? name = some "toml" then ofDocument (some (originText name)) text
    else .error (.unknownFormat (Files.join folder name))
  | none =>
    match (withExtension? name).bind fun path => (files.text? path).map fun text => (path, text) with
    | some (path, text) => ofDocument (some (originText path)) text
    | none => .error (.noSuchFile name)

/-! ## Environment variables -/

/-- The mark that begins the names of variables with settings, in lower case. -/
def variableMark : List Char := "ducktest__".toList

/-- The key of a name in which two underscores stand for a dot. -/
def dotted : List Char → List Char
  | '_' :: '_' :: rest => '.' :: dotted rest
  | c :: rest => c :: dotted rest
  | [] => []

def variableKey? (name : String) : Option String :=
  let low := (Text.lower name).toList
  if variableMark.isPrefixOf low then some (String.ofList (dotted (low.drop variableMark.length)))
  else none

/-- The size of a numeral with a fraction or an exponent, without sign. -/
def readReal? (negative : Bool) (s : List Char) : Option Binary64 :=
  let whole := s.takeWhile Text.isDigit
  let rest := s.drop whole.length
  let fraction := match rest with
    | '.' :: rest => rest.takeWhile Text.isDigit
    | _ => []
  let rest := match rest with
    | '.' :: rest => rest.drop fraction.length
    | rest => rest
  let exponent : Option Int := match rest with
    | [] => some 0
    | c :: rest =>
      if c == 'e' || c == 'E' then
        let (minus, digits) := match rest with
          | '+' :: digits => (false, digits)
          | '-' :: digits => (true, digits)
          | digits => (false, digits)
        if !digits.isEmpty && digits.all Text.isDigit then
          let size : Int := Toml.valueIn 10 digits
          some (if minus then -size else size)
        else none
      else none
  let digits := whole ++ fraction
  match exponent with
  | some exponent =>
    if digits.isEmpty then none
    else some (Binary64.ofDecimal negative (Toml.valueIn 10 digits) digits.length
      (exponent - fraction.length))
  | none => none

/-- Reads a floating point number, or a word for one that is not finite, in any case. -/
def readSpecialOrReal? (negative : Bool) (s : List Char) : Option Binary64 :=
  let word := s.map Char.toLower
  if word = "inf".toList || word = "infinity".toList then some (.infinite negative)
  else if word = "nan".toList then some .nan
  else readReal? negative s

/-- The floating point number that a text spells. -/
def real? (s : String) : Option Binary64 :=
  match s.toList with
  | '+' :: rest => readSpecialOrReal? false rest
  | '-' :: rest => readSpecialOrReal? true rest
  | rest => readSpecialOrReal? false rest

/-- The value that the text of a variable stands for: a truth value, an integer, a floating point
number, or else the text itself. -/
def variableValue (s : String) : Scalar :=
  let low := Text.lower s
  if low = "true" then .bool true
  else if low = "false" then .bool false
  else match Text.readInt Text.leastI64 Text.maxI64 s.toList with
    | .ok n => .integer n
    | .error _ =>
      match real? s with
      | some v => .real v
      | none => .text s

/-- What messages call the place of a setting from a variable. -/
def environmentOrigin : String := "the environment"

/-- The layer of environment variables, by name and text. Variables without text are left out. -/
def ofEnvironment (environment : List (String × String)) : Layer :=
  environment.filterMap fun (name, text) =>
    if text.isEmpty then none
    else (variableKey? name).map fun key =>
      (key, .scalar (some environmentOrigin) (variableValue text))

end ClusterHarness.Settings
