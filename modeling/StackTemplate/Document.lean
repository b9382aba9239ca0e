import StackTemplate.DocumentError

namespace StackTemplate

structure Document where
  description : String
  formatVersion : String := "2010-09-09"
  declarations : List Declaration := []

def Declaration.into (d : Declaration) : List Declaration → List Declaration
  | [] => [d]
  | first :: rest => if first.id = d.id then d :: rest else first :: d.into rest

namespace Document

def new (description : String) : Document := { description }

def ids (doc : Document) : List LogicalId := doc.declarations.map (·.id)

def size (doc : Document) : Nat := doc.declarations.length

def find? (doc : Document) (id : LogicalId) : Option Declaration :=
  doc.declarations.find? (·.id = id)

def position? (doc : Document) (id : LogicalId) : Option Nat :=
  doc.declarations.findIdx? (·.id = id)

def contains (doc : Document) (id : LogicalId) : Bool := (doc.find? id).isSome

def ofSection (doc : Document) (sec : Section) : List Declaration :=
  doc.declarations.filter (·.sec = sec)

def checkAvailable (doc : Document) (id : LogicalId) : Except DocumentError Unit :=
  if !id.isValid then .error (.invalidLogicalId id)
  else match doc.find? id with
    | some existing => .error (.duplicateId id existing.sec)
    | none => .ok ()

def checkBatch (doc : Document) (earlier : List Declaration) :
    List Declaration → Except DocumentError Unit
  | [] => .ok ()
  | d :: rest => do
    doc.checkAvailable d.id
    match earlier.find? (·.id = d.id) with
    | some twin => throw (.duplicateId d.id twin.sec)
    | none => doc.checkBatch (earlier ++ [d]) rest

end Document

-- Work on a document that can fail on its way. Whatever it did until then stays done.
abbrev Drafting := ExceptT DocumentError (StateM Document)

def Drafting.on {α : Type} (work : Drafting α) (doc : Document) :
    Except DocumentError α × Document := (work.run.run doc).run

structure ParameterHandle where
  id : LogicalId
  deriving DecidableEq, Repr

structure ResourceHandle where
  id : LogicalId
  deriving DecidableEq, Repr

structure ConditionHandle where
  id : LogicalId
  deriving DecidableEq, Repr

def ParameterHandle.reference (handle : ParameterHandle) : Value := .ref handle.id
def ResourceHandle.reference (handle : ResourceHandle) : Value := .ref handle.id
def ResourceHandle.attributeOf (handle : ResourceHandle) (name : String) : Value :=
  .getAtt handle.id name
def ConditionHandle.choose (handle : ConditionHandle) (whenTrue whenFalse : Value) : Value :=
  .choose handle.id whenTrue whenFalse

namespace Document

def insert (d : Declaration) : Drafting LogicalId := do
  modify fun doc => { doc with declarations := d.into doc.declarations }
  return d.id

def register (d : Declaration) : Drafting LogicalId := do
  (← get).checkAvailable d.id
  insert d

-- All names are checked before anything is inserted.
def registerAll (batch : List Declaration) : Drafting (List LogicalId) := do
  (← get).checkBatch [] batch
  batch.mapM insert

def declareParameter (id : LogicalId) (spec : ParameterSpec) : Drafting ParameterHandle := do
  return ⟨← register (.parameter id spec)⟩

def declareResource (id : LogicalId) (kind : String) (properties : Entries Value) :
    Drafting ResourceHandle := do
  return ⟨← register (.resource id kind properties)⟩

def addResource (d : Declaration) : Drafting ResourceHandle := do
  if d.sec ≠ .resource then
    throw (.unexpectedSection d.id .resource d.sec)
  return ⟨← register d⟩

def declareOutput (id : LogicalId) (value : Value) : Drafting Unit := do
  let _ ← register (.output id value)

def declareCondition (id : LogicalId) (expression : Value) : Drafting ConditionHandle := do
  return ⟨← register (.ofCondition id expression)⟩

def remove (id : LogicalId) : Drafting (Option Declaration) := do
  let found := (← get).find? id
  modify fun doc => { doc with declarations := doc.declarations.eraseP (·.id = id) }
  return found

end Document

end StackTemplate
