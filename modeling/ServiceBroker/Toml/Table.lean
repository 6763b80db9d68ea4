import ServiceBroker.Json.Basic

/-!
# Tables in TOML

The statements of a text build a tree of tables. A table comes to be in one of three ways, and that
decides on who may add to it: a table that a header names is named once only, and dotted keys only
add to tables that dotted keys have made.

## Main definitions

* `Toml.Node`, `Toml.Entries`: a tree of tables
* `Toml.Entries.assign?`: give a value to a dotted key
* `Toml.Entries.open?`, `Toml.Entries.append?`: the two sorts of headers
* `Toml.Entries.toJson`: the finished tree
-/

namespace ServiceBroker.Toml

/-- How a table came to be: a header names it, the header of a table inside it does, or a dotted
key. -/
inductive Origin where
  | named
  | implied
  | dotted
  deriving DecidableEq, Repr

mutual

/-- What stands under a key: a value, a table, or a list of tables, of which only the last can still
be added to. -/
inductive Node where
  | value (j : Json)
  | table (origin : Origin) (entries : Entries)
  | tables (finished : List Json) (last : Entries)

/-- The entries of a table. -/
inductive Entries where
  | nil
  | cons (key : String) (node : Node) (rest : Entries)

end

mutual

/-- The value of a node. -/
def Node.toJson : Node → Json
  | .value j => j
  | .table _ entries => .ofMembers entries.members
  | .tables finished last => .array (finished ++ [.ofMembers last.members])

/-- The values of entries. -/
def Entries.members : Entries → List (String × Json)
  | .nil => []
  | .cons key node rest => (key, node.toJson) :: rest.members

end

namespace Entries

/-- The finished tree. -/
def toJson (es : Entries) : Json := .ofMembers es.members

/-- What stands under a key. -/
def find? (key : String) : Entries → Option Node
  | .nil => none
  | .cons k node rest => if k = key then some node else find? key rest

/-- Put a node under a key, in the place of an earlier one. -/
def put (key : String) (node : Node) : Entries → Entries
  | .nil => .cons key node .nil
  | .cons k n rest => if k = key then .cons key node rest else .cons k n (put key node rest)

/-- Change the table that a path of dotted keys leads to. -/
def changeDotted? : List String → (Entries → Option Entries) → Entries → Option Entries
  | [], f, es => f es
  | key :: path, f, es =>
    match es.find? key with
    | none => (changeDotted? path f .nil).map fun inner => es.put key (.table .dotted inner)
    | some (.value _) => none
    | some (.tables finished last) =>
      if path.isEmpty then none
      else (changeDotted? path f last).map fun inner => es.put key (.tables finished inner)
    | some (.table origin inner) =>
      -- A key may pass through a table that only a header below it has made, but not end in it.
      if origin = .named ∨ (path.isEmpty ∧ origin ≠ .dotted) then none
      else (changeDotted? path f inner).map fun inner => es.put key (.table origin inner)

/-- Change the table that the path of a header leads to. -/
def changeNamed? : List String → (Entries → Option Entries) → Entries → Option Entries
  | [], f, es => f es
  | key :: path, f, es =>
    match es.find? key with
    | none => (changeNamed? path f .nil).map fun inner => es.put key (.table .implied inner)
    | some (.value _) => none
    | some (.tables finished last) =>
      (changeNamed? path f last).map fun inner => es.put key (.tables finished inner)
    | some (.table origin inner) =>
      (changeNamed? path f inner).map fun inner => es.put key (.table origin inner)

/-- Give a value to the dotted key that ends in `key`; it must not have one yet. -/
def assign? (path : List String) (key : String) (value : Json) (es : Entries) : Option Entries :=
  changeDotted? path (fun inner =>
    if (inner.find? key).isSome then none else some (inner.put key (.value value))) es

/-- Name the table at a path that ends in `key`. -/
def open? (path : List String) (key : String) (es : Entries) : Option Entries :=
  changeNamed? path (fun inner =>
    match inner.find? key with
    | none => some (inner.put key (.table .named .nil))
    | some (.table .implied entries) => some (inner.put key (.table .named entries))
    | some _ => none) es

/-- Start the next table in the list of tables at a path that ends in `key`. -/
def append? (path : List String) (key : String) (es : Entries) : Option Entries :=
  changeNamed? path (fun inner =>
    match inner.find? key with
    | none => some (inner.put key (.tables [] .nil))
    | some (.tables finished last) =>
      some (inner.put key (.tables (finished ++ [last.toJson]) .nil))
    | some _ => none) es

end Entries

end ServiceBroker.Toml
