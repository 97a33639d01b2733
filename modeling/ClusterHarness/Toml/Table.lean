import ClusterHarness.Binary64.Shortest

/-!
# TOML tables

The values of a TOML document, and the tables that its statements build up. A table remembers how it
came to be, since that decides which later statements may add to it.
-/

namespace ClusterHarness.Toml

inductive TableKind where
  /-- By a header of its own. -/
  | defined
  /-- On the way to a table with a header. -/
  | implied
  | dotted
  /-- As a value between braces, which nothing adds to. -/
  | closed
  deriving Repr, DecidableEq

/-- A value. -/
inductive Item where
  | bool (value : Bool)
  | integer (value : Int)
  | real (value : Binary64)
  | text (value : String)
  /-- A date, a time or both, in plain text. -/
  | date (text : String)
  | list (items : List Item)
  | table (kind : TableKind) (entries : List (String × Item))
  /-- The tables that headers in double brackets add, one after the other. -/
  | tables (elements : List (List (String × Item)))

abbrev Entries := List (String × Item)

inductive Statement where
  /-- Sets a key, at the end of a path of dotted keys. -/
  | pair (path : List String) (key : String) (value : Item)
  | table (path : List String)
  /-- Opens a new table of a list of tables. -/
  | element (path : List String)

namespace Entries

/-- Replaces the value of a key, or adds one. -/
def put (key : String) (value : Item) : Entries → Entries
  | [] => [(key, value)]
  | (other, v) :: rest =>
    if other = key then (other, value) :: rest else (other, v) :: put key value rest

/-- Sets a key at the end of a path. The tables on the path have to come from dotted keys, or from the
headers of other tables as long as the key does not go right into one of those. -/
def define (path : List String) (key : String) (value : Item) (entries : Entries) :
    Option Entries :=
  match path with
  | [] => if (entries.lookup key).isSome then none else some (entries ++ [(key, value)])
  | name :: rest =>
    match entries.lookup name with
    | none => (define rest key value []).map fun es => entries ++ [(name, .table .dotted es)]
    | some (.table kind es) =>
      if kind = .dotted || (kind = .implied && !rest.isEmpty) then
        (define rest key value es).map fun es => put name (.table kind es) entries
      else none
    | some (.tables elements) =>
      match elements.getLast? with
      | some es =>
        if rest.isEmpty then none
        else (define rest key value es).map fun es =>
          put name (.tables (elements.dropLast ++ [es])) entries
      | none => none
    | some _ => none

/-- Applies a change to the entries that hold the last name of a header's path. -/
def atParent (f : String → Entries → Option Entries) : List String → Entries → Option Entries
  | [], _ => none
  | [key], entries => f key entries
  | name :: rest, entries =>
    match entries.lookup name with
    | none => (atParent f rest []).map fun es => entries ++ [(name, .table .implied es)]
    | some (.table kind es) =>
      if kind = .closed then none
      else (atParent f rest es).map fun es => put name (.table kind es) entries
    | some (.tables elements) =>
      match elements.getLast? with
      | some es => (atParent f rest es).map fun es =>
          put name (.tables (elements.dropLast ++ [es])) entries
      | none => none
    | some _ => none

/-- Opens a table by its header. No table is opened twice. One that was implied so far comes behind
those that are there. -/
def openTable (key : String) (entries : Entries) : Option Entries :=
  match entries.lookup key with
  | none => some (entries ++ [(key, .table .defined [])])
  | some (.table .implied es) =>
    some (entries.filter (fun (other, _) => other != key) ++ [(key, .table .defined es)])
  | some _ => none

/-- Adds a table to a list of tables. -/
def openElement (key : String) (entries : Entries) : Option Entries :=
  match entries.lookup key with
  | none => some (entries ++ [(key, .tables [[]])])
  | some (.tables elements) => some (put key (.tables (elements ++ [[]])) entries)
  | some _ => none

/-- Sets a key in the table that was opened last. -/
def defineInside (path : List String) (key : String) (value : Item) (name : String)
    (entries : Entries) : Option Entries :=
  match entries.lookup name with
  | some (.table kind es) =>
    (define path key value es).map fun es => put name (.table kind es) entries
  | some (.tables elements) =>
    match elements.getLast? with
    | some es => (define path key value es).map fun es =>
        put name (.tables (elements.dropLast ++ [es])) entries
    | none => none
  | _ => none

/-- Carries out statements. `current` is the path of the table that was opened last. -/
def run (current : List String) (entries : Entries) : List Statement → Option Entries
  | [] => some entries
  | .pair path key value :: rest => do
    let entries ←
      if current.isEmpty then define path key value entries
      else atParent (defineInside path key value) current entries
    run current entries rest
  | .table path :: rest => do run path (← atParent openTable path entries) rest
  | .element path :: rest => do run path (← atParent openElement path entries) rest

end Entries

end ClusterHarness.Toml
