import LanguageBridge.Toml.Scalar

/-! Tables while a settings file is read. A table is opened by a header, implied by the header of a
table below it, or built from keys with dots, and a name is given once. -/
namespace LanguageBridge.Toml

inductive Origin where
  | header
  | implied
  | dotted
  deriving DecidableEq, Repr

/-- An entry of a table: a value, a table, or a list of tables. -/
inductive Entry where
  | value (v : Value)
  | table (origin : Origin) (entries : List (String × Entry))
  | tables (items : List (List (String × Entry)))

/-- The entries of a table, in the order in which they were added. -/
abbrev Entries := List (String × Entry)

namespace Entries

def set (entries : Entries) (key : String) (entry : Entry) : Entries :=
  match entries.lookup key with
  | none => entries ++ [(key, entry)]
  | some _ => entries.map fun (k, e) => (k, if k = key then entry else e)

/-- Adds a value under a name that is not taken. -/
def add (key : String) (v : Value) (entries : Entries) : Option Entries :=
  match entries.lookup key with
  | none => some (entries ++ [(key, .value v)])
  | some _ => none

/-- Changes the table at a path of headers; missing tables are implied, and of a list of tables the
last is meant. -/
def underHeaders (change : Entries → Option Entries) : List String → Entries → Option Entries
  | [], entries => change entries
  | key :: path, entries =>
    match entries.lookup key with
    | none => do
      let below ← underHeaders change path []
      return entries.set key (.table .implied below)
    | some (.value _) => none
    | some (.table origin below) => do
      let below ← underHeaders change path below
      return entries.set key (.table origin below)
    | some (.tables items) =>
      match items.getLast? with
      | none => none
      | some last => do
        let last ← underHeaders change path last
        return entries.set key (.tables (items.dropLast ++ [last]))

/-- Adds a value under a key with dots: all but its last name are tables that only such keys
build. -/
def addDotted (v : Value) (last : String) : List String → Entries → Option Entries
  | [], entries => entries.add last v
  | key :: path, entries =>
    match entries.lookup key with
    | none => do
      let below ← addDotted v last path []
      return entries.set key (.table .dotted below)
    | some (.table .dotted below) => do
      let below ← addDotted v last path below
      return entries.set key (.table .dotted below)
    | some (.table .implied below) =>
      if path.isEmpty then none
      else do
        let below ← addDotted v last path below
        return entries.set key (.table .implied below)
    | some (.tables items) =>
      if path.isEmpty then none
      else match items.getLast? with
        | none => none
        | some table => do
          let table ← addDotted v last path table
          return entries.set key (.tables (items.dropLast ++ [table]))
    | some _ => none

/-- Opens the table of a header, which may have been implied before. -/
def openTable (key : String) (entries : Entries) : Option Entries :=
  match entries.lookup key with
  | none => some (entries.set key (.table .header []))
  | some (.table .implied below) => some (entries.set key (.table .header below))
  | some _ => none

/-- Appends a table to the list of a double header. -/
def appendTable (key : String) (entries : Entries) : Option Entries :=
  match entries.lookup key with
  | none => some (entries.set key (.tables [[]]))
  | some (.tables items) => some (entries.set key (.tables (items ++ [[]])))
  | some _ => none

end Entries

mutual

def Entry.toValue : Entry → Value
  | .value v => v
  | .table _ entries => .table (entriesToMembers entries)
  | .tables items => .array (tablesToValues items)

def entriesToMembers : List (String × Entry) → List (String × Value)
  | [] => []
  | (key, entry) :: rest => (key, entry.toValue) :: entriesToMembers rest

def tablesToValues : List (List (String × Entry)) → List Value
  | [] => []
  | entries :: rest => .table (entriesToMembers entries) :: tablesToValues rest

end

end LanguageBridge.Toml
