import Roster.Toml.Value

/-! Tables under construction. A header may open a table once; a dotted key may extend only the
tables that dotted keys of its own section have made; a written value is never reopened. -/
namespace Roster.Toml

/-- Of several tables in an array only the last can grow. A table that a header or a dotted key has
defined knows the section it was defined in. -/
inductive Node where
  | value (v : Value)
  | table (definedIn : Option Nat) (entries : List (Text × Node))
  | tables (earlier : List (List (Text × Node))) (last : List (Text × Node))
  deriving Repr

abbrev Entries := List (Text × Node)

namespace Entries

/-- Changes the entry of a name, which may be absent, or fails. -/
def alter (name : Text) (f : Option Node → Option Node) : Entries → Option Entries
  | [] => (f none).map fun node => [(name, node)]
  | (k, node) :: rest =>
    if k = name then (f (some node)).map fun node => (k, node) :: rest
    else (alter name f rest).map ((k, node) :: ·)

/-- Changes the table at the end of a header's path, making the tables that are missing. -/
def within (f : Entries → Option Entries) : List Text → Entries → Option Entries
  | [], entries => f entries
  | name :: path, entries =>
    entries.alter name fun
      | none => (within f path []).map (.table none)
      | some (.table definedIn es) => (within f path es).map (.table definedIn)
      | some (.tables earlier last) => (within f path last).map (.tables earlier)
      | some (.value _) => none

/-- Changes the table at the end of a dotted key's path, as a key of section `n`. -/
def dotted (n : Nat) (f : Entries → Option Entries) : List Text → Entries → Option Entries
  | [], entries => f entries
  | name :: path, entries =>
    entries.alter name fun
      | none => (dotted n f path []).map (.table (some n))
      | some (.table definedIn es) =>
        if definedIn.all (· == n) then (dotted n f path es).map (.table (some n)) else none
      | _ => none

/-- Opens the table of a header, which begins section `n`. -/
def define (n : Nat) (path : List Text) : Entries → Option Entries :=
  within (fun entries =>
    entries.alter (path.getLastD []) fun
      | none => some (.table (some n) [])
      | some (.table none es) => some (.table (some n) es)
      | _ => none) path.dropLast

/-- Appends an empty table to the array of a header. -/
def append (path : List Text) : Entries → Option Entries :=
  within (fun entries =>
    entries.alter (path.getLastD []) fun
      | none => some (.tables [] [])
      | some (.tables earlier last) => some (.tables (earlier ++ [last]) [])
      | _ => none) path.dropLast

/-- Writes a value in section `n`, under the section's header and a dotted key. -/
def insert (n : Nat) (header key : List Text) (v : Value) : Entries → Option Entries :=
  within (dotted n (fun entries =>
    entries.alter (key.getLastD []) fun
      | none => some (.value v)
      | some _ => none) key.dropLast) header

end Entries

mutual

def Node.toValue : Node → Value
  | .value v => v
  | .table _ entries => .table (tableOf entries)
  | .tables earlier last => .array (tablesOf earlier ++ [.table (tableOf last)])

def tableOf : List (Text × Node) → Table
  | [] => []
  | (k, node) :: rest => (k, node.toValue) :: tableOf rest

def tablesOf : List (List (Text × Node)) → List Value
  | [] => []
  | entries :: rest => .table (tableOf entries) :: tablesOf rest

end

end Roster.Toml
