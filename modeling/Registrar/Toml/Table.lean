import Registrar.Toml.Value

/-!
Tables under construction. A table remembers how it came about, since that decides what may still
be added to it: a header opens a table once, a dotted key adds to tables that dotted keys made, and
a value is never added to.
-/

set_option autoImplicit false

namespace Registrar.Toml

/-- How a table came about. -/
inductive Origin where
  /-- As the surroundings of a table with a header. -/
  | implied
  /-- By a dotted key. -/
  | dotted
  /-- By a header, or as the whole document. -/
  | opened
deriving DecidableEq

inductive Node where
  | value (value : Value)
  | table (origin : Origin) (entries : List (String × Node))
  /-- An array of tables, of which the last may still be added to. -/
  | tables (earlier : List Value) (last : List (String × Node))

/-- The entries of a table, in the order in which their keys appear. -/
abbrev Entries := List (String × Node)

mutual

def Node.finish : Node → Value
  | .value value => value
  | .table _ entries => .table (finishEntries entries)
  | .tables earlier last => .array (earlier ++ [.table (finishEntries last)])

def finishEntries : List (String × Node) → List (String × Value)
  | [] => []
  | (key, node) :: rest => (key, node.finish) :: finishEntries rest

end

namespace Entries

def find? (entries : Entries) (key : String) : Option Node :=
  (List.find? (fun entry => entry.1 == key) entries).map Prod.snd

def put (entries : Entries) (key : String) (node : Node) : Entries :=
  if (entries.find? key).isSome then
    entries.map fun entry => if entry.1 == key then (key, node) else entry
  else entries ++ [(key, node)]

def modify (change : Origin → Entries → Option Entries) (made : Origin) :
    List String → Origin → Entries → Option Entries
  | [], origin, entries => change origin entries
  | key :: path, _, entries => do
      let node ←
        match entries.find? key with
        | none => (modify change made path made []).map (Node.table made)
        | some (.table origin inner) =>
            if made = .dotted ∧ origin = .opened then none
            else (modify change made path origin inner).map (Node.table origin)
        | some (.tables earlier last) =>
            (modify change made path .opened last).map (Node.tables earlier)
        | some (.value _) => none
      return entries.put key node

def insert? (entries : Entries) (path : List String) (key : String) (value : Value) :
    Option Entries :=
  modify (fun origin inner =>
      if !path.isEmpty && origin != .dotted then none
      else if (inner.find? key).isSome then none
      else some (inner.put key (.value value)))
    .dotted path .opened entries

/-- Opens the table of a header. Only a table that headers of others have implied may be there
already. -/
def open? (entries : Entries) (path : List String) (key : String) : Option Entries :=
  modify (fun _ inner =>
      match inner.find? key with
      | none => some (inner.put key (.table .opened []))
      | some (.table .implied found) => some (inner.put key (.table .opened found))
      | some _ => none)
    .implied path .opened entries

def openNext? (entries : Entries) (path : List String) (key : String) : Option Entries :=
  modify (fun _ inner =>
      match inner.find? key with
      | none => some (inner.put key (.tables [] []))
      | some (.tables earlier last) =>
          some (inner.put key (.tables (earlier ++ [.table (finishEntries last)]) []))
      | some _ => none)
    .implied path .opened entries

end Entries

end Registrar.Toml
