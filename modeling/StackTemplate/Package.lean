import StackTemplate.Document

namespace StackTemplate

structure Package where
  members : List (String × Declaration) := []

structure PackageHandles where
  handles : Entries (LogicalId × Section)

namespace PackageHandles

def id? (handles : PackageHandles) (name : String) : Option LogicalId :=
  (Entries.find? handles.handles name).map (·.1)

def section? (handles : PackageHandles) (name : String) : Option Section :=
  (Entries.find? handles.handles name).map (·.2)

def reference? (handles : PackageHandles) (name : String) : Option Value :=
  (handles.id? name).map .ref

def names (handles : PackageHandles) : List String := Entries.keys handles.handles

end PackageHandles

namespace Package

def size (package : Package) : Nat := package.members.length

def names (package : Package) : List String := package.members.map (·.1)

-- Of two members of one name the handles lead to the later.
def registerInto (package : Package) : Drafting PackageHandles := do
  let declarations := package.members.map (·.2)
  let ids ← Document.registerAll declarations
  let named := package.names.zip (ids.zip (declarations.map (·.sec)))
  return ⟨Entries.ofList named⟩

end Package

end StackTemplate
