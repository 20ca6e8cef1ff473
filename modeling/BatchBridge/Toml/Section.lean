import BatchBridge.Toml.Basic

/-!
# Tables under construction

A document defines its tables piece by piece: by headers, by dotted keys, and by being on the way
to either.  A table may be defined once, so while a document is read each table keeps where it came
from.

* `Node`, `Origin` — what a key stands for so far.
* `Node.assign` — a value at a path of dotted keys.  Such a path does not enter a table that has a
  header, and does not add to one that headers of other tables imply.
* `Node.openTable`, `Node.openArray` — the headers `[a.b]` and `[[a.b]]`.  A header enters any
  table on its way, and of an array of tables the last one.
* `Node.toToml` — the value of what has been constructed.
-/

namespace BatchBridge.Toml

/-- Where a table comes from. -/
inductive Origin where
  /-- It has a header. -/
  | header
  /-- It is on the way to a table that has a header. -/
  | implied
  /-- It is on the way of a dotted key. -/
  | dotted
  deriving DecidableEq, Repr

/-- What a key stands for so far. -/
inductive Node where
  | value (v : Toml)
  | table (origin : Origin) (members : List (String × Node))
  /-- Tables with headers of their own. -/
  | tables (elements : List (List (String × Node)))

namespace Node

/-- The keys of a table and what they stand for. -/
abbrev Nodes := List (String × Node)

/-- Changes what a key stands for. -/
def replace (key : String) (node : Node) (nodes : Nodes) : Nodes :=
  nodes.map fun (name, old) => if name = key then (name, node) else (name, old)

/-- Adds a key that is not there. -/
def insertNew (key : String) (node : Node) (nodes : Nodes) : Option Nodes :=
  if nodes.any (·.1 = key) then none else some (nodes ++ [(key, node)])

/-- Changes the last table of an array, if there is one. -/
def changeLast (change : Nodes → Option Nodes) : List Nodes → Option (List Nodes)
  | [] => none
  | [last] => (change last).map ([·])
  | first :: rest => (changeLast change rest).map (first :: ·)

/-- Puts a value at a path of dotted keys. -/
def assign (value : Toml) : List String → Nodes → Option Nodes
  | [], _ => none
  | [key], nodes => insertNew key (.value value) nodes
  | key :: next :: path, nodes =>
    match nodes.lookup key with
    | none =>
      (assign value (next :: path) []).map fun inner => nodes ++ [(key, .table .dotted inner)]
    | some (.value _) => none
    | some (.table origin inner) =>
      if origin = .header || (path.isEmpty && origin ≠ .dotted) then none
      else
        (assign value (next :: path) inner).map fun inner =>
          replace key (.table origin inner) nodes
    | some (.tables elements) =>
      if path.isEmpty then none
      else
        (changeLast (assign value (next :: path)) elements).map fun elements =>
          replace key (.tables elements) nodes

/-- Changes the table at a path of headers; tables that are not there yet are implied. -/
def changeAt (change : Nodes → Option Nodes) : List String → Nodes → Option Nodes
  | [], nodes => change nodes
  | key :: path, nodes =>
    match nodes.lookup key with
    | none => (changeAt change path []).map fun inner => nodes ++ [(key, .table .implied inner)]
    | some (.value _) => none
    | some (.table origin inner) =>
      (changeAt change path inner).map fun inner => replace key (.table origin inner) nodes
    | some (.tables elements) =>
      (changeLast (changeAt change path) elements).map fun elements =>
        replace key (.tables elements) nodes

/-- Gives a table its header.  It must not have one, nor come from dotted keys. -/
def openTable (key : String) (nodes : Nodes) : Option Nodes :=
  match nodes.lookup key with
  | none => some (nodes ++ [(key, .table .header [])])
  | some (.table .implied inner) => some (replace key (.table .header inner) nodes)
  | some _ => none

/-- Adds a table to an array of tables. -/
def openArray (key : String) (nodes : Nodes) : Option Nodes :=
  match nodes.lookup key with
  | none => some (nodes ++ [(key, .tables [[]])])
  | some (.tables elements) => some (replace key (.tables (elements ++ [[]])) nodes)
  | some _ => none

/-! ## Values -/

mutual

/-- What a node stands for. -/
def toToml : Node → Toml
  | .value v => v
  | .table _ members => .table (nodesToMembers members)
  | .tables elements => .array (elementsToToml elements)

/-- What the keys of a table stand for. -/
def nodesToMembers : List (String × Node) → List (String × Toml)
  | [] => []
  | (key, node) :: rest => (key, node.toToml) :: nodesToMembers rest

/-- The tables of an array. -/
def elementsToToml : List (List (String × Node)) → List Toml
  | [] => []
  | members :: rest => .table (nodesToMembers members) :: elementsToToml rest

end

end Node
end BatchBridge.Toml
