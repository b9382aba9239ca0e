import StackTemplate.Toml.Statement

namespace StackTemplate.Toml

structure Progress where
  root : Branches := []
  current : List String := []

def Statement.apply (progress : Progress) : Statement → Option Progress
  | .table path name => do
    let root ← Branch.atPath (Branch.openTable name) path progress.root
    some ⟨root, path ++ [name]⟩
  | .tableOfArray path name => do
    let root ← Branch.atPath (Branch.openRow name) path progress.root
    some ⟨root, path ++ [name]⟩
  | .pair path name v => do
    let root ← Branch.atPath (Branch.addPair path name v) progress.current progress.root
    some { progress with root }

def parse? (text : String) : Option (List (String × Toml)) := do
  let progress ← (← statements text.toList).foldlM Statement.apply {}
  some (Branch.freeze progress.root)

end StackTemplate.Toml
