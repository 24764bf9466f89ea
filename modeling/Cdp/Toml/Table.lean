import Cdp.Json.Basic

/-!
# Tables

A document defines a tree of tables. Every key is defined once. A table may come about in three
ways: by a header of its own, as a step on the way of another header, and as a step of a key with
points. A step on the way may still get its header; only tables that came about through keys with
points may be filled through keys with points. Values, inline tables among them, are closed.
-/

set_option autoImplicit false

namespace Cdp.Toml

/-- How a table came about. -/
inductive TableKind where
  | header
  | onTheWay
  | dotted
deriving DecidableEq

/-- What a key stands for. -/
inductive Node where
  | leaf (value : Json)
  | table (kind : TableKind) (entries : List (String × Node))
  /-- The tables of a repeated header, the last one first. -/
  | tables (ts : List (List (String × Node)))

abbrev Entries := List (String × Node)

/-- A table that is open for further entries. -/
structure Table where
  kind : TableKind
  entries : Entries

namespace Entries

def get? (key : String) (es : Entries) : Option Node := (es.find? fun e => e.1 = key).map (·.2)

/-- Sets the node of a key; a new key goes to the end. -/
def set (key : String) (n : Node) (es : Entries) : Entries :=
  if es.any fun e => e.1 = key then es.map fun e => if e.1 = key then (key, n) else e
  else es ++ [(key, n)]

end Entries

namespace Table

def empty : Table := ⟨.header, []⟩

/-- Changes the table at the end of a path. Missing tables on the path come about; a repeated header
stands for its last table. With `viaKey`, the path belongs to a key with points. -/
def update (viaKey : Bool) (change : Table → Option Table) : List String → Table → Option Table
  | [], t => change t
  | key :: path, t => do
    match t.entries.get? key with
    | none =>
      let t' ← update viaKey change path ⟨if viaKey then .dotted else .onTheWay, []⟩
      return { t with entries := t.entries.set key (.table t'.kind t'.entries) }
    | some (.leaf _) => none
    | some (.table kind entries) =>
      if viaKey && kind = .header then none
      else
        let t' ← update viaKey change path ⟨kind, entries⟩
        return { t with entries := t.entries.set key (.table t'.kind t'.entries) }
    | some (.tables []) => none
    | some (.tables (last :: before)) =>
      let t' ← update viaKey change path ⟨.header, last⟩
      return { t with entries := t.entries.set key (.tables (t'.entries :: before)) }

/-- Defines a key, which may have points. -/
def define (path : List String) (value : Json) (t : Table) : Option Table := do
  let name ← path.getLast?
  let way := path.dropLast
  t.update true (fun target =>
    if (target.kind = .dotted) = way.isEmpty then none
    else if (target.entries.get? name).isSome then none
    else some { target with entries := target.entries.set name (.leaf value) }) way

/-- Opens the table of a header. -/
def openHeader (path : List String) (t : Table) : Option Table := do
  let name ← path.getLast?
  t.update false (fun target =>
    match target.entries.get? name with
    | none => some { target with entries := target.entries.set name (.table .header []) }
    | some (.table .onTheWay entries) =>
      some { target with entries := target.entries.set name (.table .header entries) }
    | some _ => none) path.dropLast

/-- Opens one more table of a repeated header. -/
def openRepeated (path : List String) (t : Table) : Option Table := do
  let name ← path.getLast?
  t.update false (fun target =>
    match target.entries.get? name with
    | none => some { target with entries := target.entries.set name (.tables [[]]) }
    | some (.tables ts) =>
      some { target with entries := target.entries.set name (.tables ([] :: ts)) }
    | some _ => none) path.dropLast

end Table

/-! ## Tables as data -/

mutual

/-- A node as data. -/
def Node.toJson : Node → Json
  | .leaf value => value
  | .table _ entries => .object (Node.entriesToJson entries)
  | .tables ts => .array (Node.tablesToJson ts).reverse

/-- Entries as fields. -/
def Node.entriesToJson : List (String × Node) → List (String × Json)
  | [] => []
  | (key, n) :: rest => (key, n.toJson) :: Node.entriesToJson rest

/-- Tables as objects. -/
def Node.tablesToJson : List (List (String × Node)) → List Json
  | [] => []
  | entries :: rest => .object (Node.entriesToJson entries) :: Node.tablesToJson rest

end

def Table.toJson (t : Table) : Json := .object (Node.entriesToJson t.entries)

end Cdp.Toml
