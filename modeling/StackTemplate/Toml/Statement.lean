import StackTemplate.Toml.Branch
import StackTemplate.Toml.Scalar

namespace StackTemplate.Toml

inductive Statement where
  | table (path : List String) (name : String)
  | tableOfArray (path : List String) (name : String)
  | pair (path : List String) (name : String) (value : Toml)

def arrayItem (value : Reader Toml) : Reader (Option Toml) := fun input => do
  match ← skipSpace input with
  | ']' :: rest => some (none, rest)
  | start =>
    let (item, rest) ← value start
    match ← skipSpace rest with
    | ',' :: rest => some (some item, rest)
    | ']' :: rest => some (some item, ']' :: rest)
    | _ => none

def pair (value : Reader Toml) : Reader ((List String × String) × Toml) := fun input => do
  let (name, rest) ← key input
  let rest ← expect '=' rest
  let (v, rest) ← value (skipBlanks rest)
  some ((name, v), rest)

-- A comma announces a further pair, unlike in arrays.
-- A pair of an inline table with the comma after it, or the end of the table.
def inlinePair (value : Reader Toml) : Reader (Option ((List String × String) × Toml)) :=
  fun input => do
    match skipBlanks input with
    | '}' :: rest => some (none, rest)
    | start =>
      let (entry, rest) ← pair value start
      match skipBlanks rest with
      | ',' :: rest => if (skipBlanks rest).head? = some '}' then none else some (some entry, rest)
      | '}' :: rest => some (some entry, '}' :: rest)
      | _ => none

def inlineTable (pairs : List ((List String × String) × Toml)) : Option Toml := do
  let branches ← pairs.foldlM (fun branches ((path, name), v) => Branch.addPair path name v branches) []
  some (.table (Branch.freeze branches))

def value : (depth : Nat) → Reader Toml
  | 0 => scalar
  | depth + 1 => fun input =>
    match input with
    | '[' :: rest =>
      (collect (arrayItem (value depth)) rest).map fun (items, rest) => (.array items, rest)
    | '{' :: rest => do
      let (pairs, rest) ← collect (inlinePair (value depth)) rest
      some (← inlineTable pairs, rest)
    | _ => scalar input

def header (input : List Char) : Option (Statement × List Char) :=
  match input with
  | '[' :: '[' :: rest => do
    let ((path, name), rest) ← key rest
    let rest ← expect ']' rest
    let rest ← expect ']' rest
    some (.tableOfArray path name, rest)
  | '[' :: rest => do
    let ((path, name), rest) ← key rest
    let rest ← expect ']' rest
    some (.table path name, rest)
  | _ => none

def line : Reader (Option (Option Statement)) := fun input => do
  let start := skipBlanks input
  match start with
  | [] => some (none, [])
  | '[' :: _ =>
    let (statement, rest) ← header start
    some (some (some statement), ← endOfLine rest)
  | c :: _ =>
    if c = '#' || c = '\n' || c = '\r' then some (some none, ← endOfLine start)
    else
      let (((path, name), v), rest) ← pair (value (depthLimit - 1)) start
      some (some (some (.pair path name v)), ← endOfLine rest)

def statements (text : List Char) : Option (List Statement) := do
  let (lines, _) ← collect line (match text with
    | '\ufeff' :: rest => rest
    | _ => text)
  some (lines.filterMap id)

end StackTemplate.Toml
