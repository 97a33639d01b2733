import ClusterHarness.Binary64.Shortest
import ClusterHarness.Settings.KeyPath
import ClusterHarness.Text.Lowercase

/-!
# Layered settings

A tree of settings that is put together from layers. Each value knows where it was read. A layer is
merged key by key: tables grow together, and any other value replaces what it meets.
-/

namespace ClusterHarness.Settings

/-- A value without parts. -/
inductive Scalar where
  | bool (value : Bool)
  /-- A signed integer of 64 bits. -/
  | integer (value : Int)
  | real (value : Binary64)
  | text (value : String)
  deriving Repr, DecidableEq

/-- A setting, with the place it was read from, if it has one. -/
inductive Setting where
  /-- An item of a list that no layer has given. -/
  | absent
  | scalar (origin : Option String) (value : Scalar)
  | list (origin : Option String) (items : List Setting)
  | table (origin : Option String) (entries : List (String × Setting))

namespace Setting

/-- A table without entries. -/
def empty : Setting := .table none []

/-- Replaces the entry of a name, or adds one. -/
def replaceEntry (name : String) (value : Setting) :
    List (String × Setting) → List (String × Setting)
  | [] => [(name, value)]
  | (other, v) :: rest =>
    if other = name then (other, value) :: rest else (other, v) :: replaceEntry name value rest

/-- Applies a change to the entry of a name. What is no table becomes an empty one first, and a
missing entry is taken to be an empty table. -/
def change (name : String) (f : Setting → Setting) : Setting → Setting
  | .table origin entries =>
    .table origin (replaceEntry name (f ((entries.lookup name).getD empty)) entries)
  | _ => .table none [(name, f empty)]

/-- The place in a list of so many items that a position stands for. -/
def placeOf (index : Int) (length : Nat) : Nat :=
  if 0 ≤ index then index.toNat else length - index.natAbs

/-- Applies a change to the item at a position. What is no list becomes an empty one first, and a list
that is too short is filled up. -/
def changeItem (index : Int) (f : Setting → Setting) (s : Setting) : Setting :=
  let (origin, items) := match s with
    | .list origin items => (origin, items)
    | _ => (none, [])
  let place := placeOf index items.length
  let filled := items ++ List.replicate (place + 1 - items.length) .absent
  .list origin (filled.modify place f)

mutual

/-- Merges a value into the entry of a name, which is taken in lower case. A table is merged entry by
entry, so an empty one changes nothing that is there; any other value replaces the entry. -/
def merge (root : Setting) (name : String) : Setting → Setting
  | .table _ entries => root.change (Text.lower name) fun target => mergeAll target entries
  | value => root.change (Text.lower name) fun _ => value

/-- Merges entries one after the other. -/
def mergeAll (root : Setting) : List (String × Setting) → Setting
  | [] => root
  | (name, value) :: rest => mergeAll (root.merge name value) rest

end

/-- Merges a value at the end of a path. At a position it replaces what is there. -/
def mergeAt (root : Setting) (value : Setting) : List PathStep → Setting
  | [] => value
  | [.name name] => root.merge name value
  | .name name :: rest => root.change (Text.lower name) fun target => target.mergeAt value rest
  | .position index :: rest => root.changeItem index fun target => target.mergeAt value rest

end Setting

/-- A layer: values to be merged, each at the path that its key spells. -/
abbrev Layer := List (String × Setting)

/-- Merges a layer on top of a tree. -/
def applyLayer (root : Setting) (layer : Layer) : Setting :=
  layer.foldl (fun tree (key, value) => tree.mergeAt value (keyPath key)) root

/-- The tree of several layers, the later ones on top. -/
def stack (layers : List Layer) : Setting := layers.foldl applyLayer .empty

end ClusterHarness.Settings
