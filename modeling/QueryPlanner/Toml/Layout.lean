import QueryPlanner.Toml.Value

/-!
Tables while a TOML text is read.

A table remembers how it came about, since that decides whether it may still be opened or grow: by
a header of its own, by a header of a table inside it, or by a key with dots.
-/

namespace QueryPlanner.Toml

/-- How a table came about. -/
inductive Origin where
  /-- By a header of its own, or as the outermost table. -/
  | declared
  /-- By the header of a table inside it. -/
  | implied
  /-- By a key with dots. -/
  | dotted
  deriving DecidableEq

/-- What a key of a table has. -/
inductive Node where
  | value (value : Value)
  | table (origin : Origin) (entries : List (String × Node))
  /-- An array of tables, the last one of which is open. -/
  | tables (closed : List (List (String × Node))) (last : List (String × Node))

abbrev Entries := List (String × Node)

def Entries.find? (entries : Entries) (key : String) : Option Node :=
  (List.find? (fun entry => entry.1 = key) entries).map Prod.snd

/-- The entries with a key given a node, in place of any that it had. -/
def Entries.put (key : String) (node : Node) : Entries → Entries
  | [] => [(key, node)]
  | (other, kept) :: rest =>
      if other = key then (key, node) :: rest else (other, kept) :: put key node rest

/-- Changes the table at the end of a path.  Tables that are missing on the way come about by
`origin`; on the way by a key with dots, tables with a header of their own are closed. -/
def updateAt (origin : Origin) (change : Origin → Entries → Option Entries) :
    (path : List String) → (here : Origin) → Entries → Option Entries
  | [], here, entries => change here entries
  | key :: path, _, entries =>
      match entries.find? key with
      | none => do
          let inner ← updateAt origin change path origin []
          return entries.put key (.table origin inner)
      | some (.table inside inner) =>
          if origin = .dotted ∧ inside = .declared then none
          else do
            let inner ← updateAt origin change path inside inner
            return entries.put key (.table inside inner)
      | some (.tables closed last) => do
          let last ← updateAt origin change path .declared last
          return entries.put key (.tables closed last)
      | some (.value _) => none

def splitPath? (path : List String) : Option (List String × String) :=
  path.getLast?.map fun key => (path.dropLast, key)

def openTable (path : List String) (root : Entries) : Option Entries := do
  let (parents, key) ← splitPath? path
  let change (_ : Origin) (entries : Entries) : Option Entries :=
    match entries.find? key with
    | none => some (entries.put key (.table .declared []))
    | some (.table .implied inner) => some (entries.put key (.table .declared inner))
    | some _ => none
  updateAt .implied change parents .declared root

def openNext (path : List String) (root : Entries) : Option Entries := do
  let (parents, key) ← splitPath? path
  let change (_ : Origin) (entries : Entries) : Option Entries :=
    match entries.find? key with
    | none => some (entries.put key (.tables [] []))
    | some (.tables closed last) => some (entries.put key (.tables (closed ++ [last]) []))
    | some _ => none
  updateAt .implied change parents .declared root

/-- Gives a key of a table a value.  A key with dots leads through tables that such keys made. -/
def assign (key : List String) (value : Node) (entries : Entries) : Option Entries := do
  let (parents, last) ← splitPath? key
  let change (here : Origin) (entries : Entries) : Option Entries :=
    if decide (here = .dotted) = parents.isEmpty then none
    else if (entries.find? last).isSome then none
    else some (entries.put last value)
  updateAt .dotted change parents .declared entries

def assignIn (opened key : List String) (value : Node) (root : Entries) : Option Entries :=
  updateAt .implied (fun _ entries => assign key value entries) opened .declared root

mutual

def Node.toValue : Node → Value
  | .value value => value
  | .table _ entries => .table (membersOf entries)
  | .tables closed last => .array (tablesOf closed ++ [.table (membersOf last)])

def membersOf : List (String × Node) → List (String × Value)
  | [] => []
  | (key, node) :: rest => (key, node.toValue) :: membersOf rest

def tablesOf : List (List (String × Node)) → List Value
  | [] => []
  | entries :: rest => .table (membersOf entries) :: tablesOf rest

end

end QueryPlanner.Toml
