/-!
# A tree of files

Folders and text files by their paths, with the two operations that write to them: making a folder
together with those above it, and writing a file. A path is taken from the folder `here` on, unless
it begins at the root.
-/

namespace ClusterHarness

/-- What a path leads to. -/
inductive Entry where
  | folder
  | file (text : String)
  deriving Repr, DecidableEq

/-- The text of a file. A folder has none. -/
def Entry.text : Entry → String
  | .folder => ""
  | .file text => text

/-- Why an operation on files fails. -/
inductive FileFault where
  | noSuchFile
  | exists
  | notAFolder
  | isAFolder
  | nameTooLong
  | nulInName
  deriving Repr, DecidableEq

def FileFault.message : FileFault → String
  | .noSuchFile => "No such file or directory (os error 2)"
  | .exists => "File exists (os error 17)"
  | .notAFolder => "Not a directory (os error 20)"
  | .isAFolder => "Is a directory (os error 21)"
  | .nameTooLong => "File name too long (os error 36)"
  | .nulInName => "file name contained an unexpected NUL byte"

/-- A tree of files. The root is always a folder. -/
structure Files where
  /-- Entries by their absolute path, as names from the root on. -/
  entries : List (List String × Entry)
  here : List String
  deriving Repr, DecidableEq

namespace Files

def empty : Files := ⟨[(["work"], .folder)], ["work"]⟩

def get? (files : Files) (path : List String) : Option Entry :=
  if path.isEmpty then some .folder else files.entries.lookup path

def put (files : Files) (path : List String) (entry : Entry) : Files :=
  { files with
    entries :=
      if (files.entries.lookup path).isSome then
        files.entries.map fun (p, e) => if p = path then (p, entry) else (p, e)
      else files.entries ++ [(path, entry)] }

/-- The parts of a path between its slashes. -/
def splitPath : List Char → List (List Char)
  | [] => [[]]
  | '/' :: rest => [] :: splitPath rest
  | c :: rest =>
    match splitPath rest with
    | [] => [[c]]
    | part :: parts => (c :: part) :: parts

def parts (path : String) : List String := (splitPath path.toList).map String.ofList

/-- Whether a path begins at the root. -/
def isAbsolute (path : String) : Bool := path.toList.head? == some '/'

/-- Where the walk along a path begins. -/
def origin (files : Files) (path : String) : List String :=
  if isAbsolute path then [] else files.here

/-- Walks along parts of a path: every part has to be taken in a folder. The last part need not lead
to an entry. -/
def walk (files : Files) (at_ : List String) : List String → Except FileFault (List String)
  | [] => .ok at_
  | part :: rest =>
    match files.get? at_ with
    | none => .error .noSuchFile
    | some (.file _) => .error .notAFolder
    | some .folder =>
      if part = "" || part = "." then walk files at_ rest
      else if part = ".." then walk files at_.dropLast rest
      else if 255 < part.utf8ByteSize then .error .nameTooLong
      else walk files (at_ ++ [part]) rest

/-- The least length in bytes at which a path is too long. A single name may have up to 255 bytes. -/
def pathLimit : Nat := 4096

def resolve (files : Files) (path : String) : Except FileFault (List String) :=
  if Char.ofNat 0 ∈ path.toList then .error .nulInName
  else if path = "" then .error .noSuchFile
  else if pathLimit ≤ path.utf8ByteSize then .error .nameTooLong
  else files.walk (files.origin path) (parts path)

def entry? (files : Files) (path : String) : Option Entry :=
  match files.resolve path with
  | .ok at_ => files.get? at_
  | .error _ => none

def isFolder (files : Files) (path : String) : Bool := files.entry? path == some .folder

def text? (files : Files) (path : String) : Option String :=
  match files.entry? path with
  | some (.file text) => some text
  | _ => none

/-- Makes one folder, in a folder that is there. Slashes at the end of its path say nothing. -/
def makeFolderAt (files : Files) (start path : List String) : Except FileFault Files := do
  let at_ ← files.walk start (path.reverse.dropWhile (· = "")).reverse
  match files.get? at_ with
  | some _ => .error .exists
  | none => return files.put at_ .folder

/-- Makes one folder unless it is there already: the files afterwards, and whether it is there. -/
def ensureFolderAt (files : Files) (start path : List String) : Files × Except FileFault Unit :=
  match files.makeFolderAt start path with
  | .ok files => (files, .ok ())
  | .error .exists =>
    match files.walk start path with
    | .ok at_ => (files, if files.get? at_ = some .folder then .ok () else .error .exists)
    | .error _ => (files, .error .exists)
  | .error fault => (files, .error fault)

/-- Makes the folders along a path that are missing, from the first on. The parts of the path are
given from the last to the first. The folders that were made stay when a later one cannot be made. -/
def makeFoldersAt (files : Files) (start : List String) :
    (parts : List String) → Files × Except FileFault Unit
  | [] => (files, .ok ())
  | part :: above =>
    if part = "" || part = "." then makeFoldersAt files start above
    else
      let path := (part :: above).reverse
      match files.ensureFolderAt start path with
      | (files, .error .noSuchFile) =>
        match makeFoldersAt files start above with
        | (files, .ok ()) => files.ensureFolderAt start path
        | failed => failed
      | result => result

/-- The parts of the path to the folder that a path's last named part is in. Both are given from the
last part to the first. -/
def partsAbove (parts : List String) : List String :=
  (parts.dropWhile fun part => part = "" || part = ".").tail

/-- Makes the folder that a path names and those above it that are missing: the files afterwards, and
whether the folder is there. The path is taken as it stands, so that `a/.` is the folder `a` where that
is there, and cannot be made where it is not. The folders that were made stay when a later one cannot
be made. -/
def makeFolders (files : Files) (path : String) : Files × Except FileFault Unit :=
  let start := files.origin path
  let whole := parts path
  if Char.ofNat 0 ∈ path.toList then (files, .error .nulInName)
  else if path = "" then (files, .ok ())
  else if pathLimit ≤ path.utf8ByteSize then (files, .error .nameTooLong)
  else
    match files.ensureFolderAt start whole with
    | (files, .error .noSuchFile) =>
      match files.makeFoldersAt start (partsAbove whole.reverse) with
      | (files, .ok ()) => files.ensureFolderAt start whole
      | failed => failed
    | result => result

/-- Writes a file, over the one that may be there. -/
def write (files : Files) (path text : String) : Except FileFault Files := do
  let at_ ← files.resolve path
  match files.get? at_ with
  | some .folder => .error .isAFolder
  | _ => return files.put at_ (.file text)

def folderOf (path : String) : String :=
  String.ofList (path.toList.reverse.dropWhile (· != '/')).reverse

/-- Writes a file into its folder, which is made if it is missing. A file that cannot be written is left
out. -/
def place (files : Files) (path text : String) : Files :=
  let made := (files.makeFolders (folderOf path)).1
  (made.write path text).toOption.getD made

/-- The tree with the given text files in an otherwise empty folder. -/
def ofList (texts : List (String × String)) : Files :=
  texts.foldl (fun files (path, text) => files.place path text) empty

/-- A path followed from a folder: the folder is left out when the path begins at the root. -/
def join (folder path : String) : String :=
  if isAbsolute path || folder = "" then path
  else if folder.toList.getLast? == some '/' then folder ++ path
  else folder ++ "/" ++ path

/-- The names of the files and folders right in a folder, with their texts. -/
def list? (files : Files) (folder : String) : Option (List (String × String)) :=
  match files.resolve folder with
  | .error _ => none
  | .ok at_ =>
    if files.get? at_ = some .folder then
      some (files.entries.filterMap fun (path, entry) =>
        if path.dropLast = at_ then path.getLast?.map fun name => (name, entry.text) else none)
    else none

end Files

end ClusterHarness
