import StackTemplate.Entries
import StackTemplate.Toml

namespace StackTemplate.Toml

-- How a table came about: under its own header, as a table that a longer header passes through,
-- or by a dotted key.
inductive Origin where
  | header | passage | dotted
  deriving DecidableEq, Repr

inductive Branch where
  | value (v : Toml)
  | table (origin : Origin) (entries : List (String × Branch))
  | tables (rows : List (List (String × Branch)))
  deriving Inhabited

abbrev Branches := List (String × Branch)

namespace Branch

-- Adds a pair to the table that a dotted key leads to, making tables on the way. Tables with
-- headers of their own are closed to dotted keys, and no key is given twice.
def addDotted (name : String) (v : Toml) : (path : List String) → (within : Origin) →
    Branches → Option Branches
  | [], within, branches =>
    if within = .dotted ∧ (Entries.find? branches name).isNone then
      some (branches ++ [(name, .value v)])
    else none
  | k :: path, _, branches =>
    match Entries.find? branches k with
    | none => do
      let inner ← addDotted name v path .dotted []
      some (branches ++ [(k, .table .dotted inner)])
    | some (.table .header _) => none
    | some (.table origin entries) => do
      let inner ← addDotted name v path origin entries
      some (Entries.insert branches k (.table origin inner))
    | some (.tables rows) => do
      let inner ← addDotted name v path .header (rows.getLastD [])
      some (Entries.insert branches k (.tables (rows.dropLast ++ [inner])))
    | some (.value _) => none

def addPair (path : List String) (name : String) (v : Toml) (branches : Branches) :
    Option Branches :=
  match path with
  | [] =>
    if (Entries.find? branches name).isNone then some (branches ++ [(name, .value v)]) else none
  | k :: path => addDotted name v (k :: path) .header branches

-- Changes the table that a header's path leads to, making tables on the way. In an array of
-- tables the way goes through the last one.
def atPath (change : Branches → Option Branches) : (path : List String) → Branches → Option Branches
  | [], branches => change branches
  | k :: path, branches =>
    match Entries.find? branches k with
    | none => do
      let inner ← atPath change path []
      some (branches ++ [(k, .table .passage inner)])
    | some (.table origin entries) => do
      let inner ← atPath change path entries
      some (Entries.insert branches k (.table origin inner))
    | some (.tables rows) => do
      let inner ← atPath change path (rows.getLastD [])
      some (Entries.insert branches k (.tables (rows.dropLast ++ [inner])))
    | some (.value _) => none

-- A table that only longer headers have passed through so far takes its place among the
-- others where its own header stands.
def openTable (name : String) (branches : Branches) : Option Branches :=
  match Entries.find? branches name with
  | none => some (branches ++ [(name, .table .header [])])
  | some (.table .passage entries) =>
    some (branches.filter (·.1 ≠ name) ++ [(name, .table .header entries)])
  | some _ => none

def openRow (name : String) (branches : Branches) : Option Branches :=
  match Entries.find? branches name with
  | none => some (branches ++ [(name, .tables [[]])])
  | some (.tables rows) => some (Entries.insert branches name (.tables (rows ++ [[]])))
  | some _ => none

mutual

def frozen : Branch → Toml
  | .value v => v
  | .table _ entries => .table (freeze entries)
  | .tables rows => .tables (freezeRows rows)

def freeze : List (String × Branch) → List (String × Toml)
  | [] => []
  | (name, branch) :: rest => (name, frozen branch) :: freeze rest

def freezeRows : List (List (String × Branch)) → List Toml
  | [] => []
  | row :: rows => .table (freeze row) :: freezeRows rows

end

end Branch

end StackTemplate.Toml
