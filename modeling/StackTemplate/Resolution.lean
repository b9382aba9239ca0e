import StackTemplate.Lint
import StackTemplate.Suggestion

namespace StackTemplate

-- A value in which every reference has been checked. `ref` holds a logical id or the token of a
-- pseudo parameter.
inductive ResolvedValue where
  | string (text : String)
  | number (value : Number)
  | bool (value : Bool)
  | list (items : List ResolvedValue)
  | map (entries : List (String × ResolvedValue))
  | ref (token : String)
  | getAtt (target name : String)
  | join (separator : String) (parts : List ResolvedValue)
  | choose (condition : String) (whenTrue whenFalse : ResolvedValue)
  | equals (left right : ResolvedValue)
  | base64 (inner : ResolvedValue)
  deriving Inhabited

structure ResolvedDeclaration where
  id : LogicalId
  sec : Section
  kind : String
  attributes : Entries ResolvedValue
  dependsOn : List LogicalId
  condition : Option LogicalId
  updatePolicy : Option ResolvedValue
  deletionPolicy : Option DeletionPolicy

def ResolvedDeclaration.expression? (d : ResolvedDeclaration) : Option ResolvedValue :=
  Entries.find? d.attributes Declaration.expressionKey

structure ResolvedDocument where
  description : String
  formatVersion : String
  declarations : List ResolvedDeclaration
  advisories : List Advisory

def ResolvedDocument.ofSection (doc : ResolvedDocument) (sec : Section) : List ResolvedDeclaration :=
  doc.declarations.filter (·.sec = sec)

structure Use where
  target : LogicalId
  sec : Section
  deriving DecidableEq, Repr

structure Scope where
  document : Document
  owner : Declaration
  position : Nat

namespace Scope

-- Finds the target of a reference: not the owner, declared, in a section that this kind of
-- reference can name, and no later than the owner. The first of these that fails is the error.
def lookup (scope : Scope) (kind : ReferenceKind) (target : LogicalId) :
    Except DocumentError Section :=
  if target = scope.owner.id then .error (.selfReference target)
  else match scope.document.find? target with
    | none =>
      .error (.unresolvedReference target scope.owner.id (scope.document.suggestions target))
    | some found =>
      if found.sec ∉ kind.allowed then
        .error (.sectionMismatch scope.owner.id target kind found.sec)
      else if (scope.document.position? target).any (scope.position < ·) then
        .error (.forwardReference scope.owner.id target)
      else .ok found.sec

mutual

def value (scope : Scope) : Value → Except DocumentError (ResolvedValue × List Use)
  | .string text => .ok (.string text, [])
  | .number n => .ok (.number n, [])
  | .bool b => .ok (.bool b, [])
  | .list vs => do
    let (items, uses) ← scope.items vs
    return (.list items, uses)
  | .map vs => do
    let (entries, uses) ← scope.entries vs
    return (.map entries, uses)
  | .ref target => do
    let sec ← scope.lookup .ref target
    return (.ref target.text, [⟨target, sec⟩])
  | .getAtt target name => do
    let sec ← scope.lookup .getAtt target
    return (.getAtt target.text name, [⟨target, sec⟩])
  | .pseudo parameter => .ok (.ref parameter.token, [])
  | .join separator vs => do
    let (parts, uses) ← scope.items vs
    return (.join separator parts, uses)
  | .choose condition whenTrue whenFalse => do
    let sec ← scope.lookup .choose condition
    let (a, usesA) ← scope.value whenTrue
    let (b, usesB) ← scope.value whenFalse
    return (.choose condition.text a b, ⟨condition, sec⟩ :: usesA ++ usesB)
  | .equals left right => do
    let (a, usesA) ← scope.value left
    let (b, usesB) ← scope.value right
    return (.equals a b, usesA ++ usesB)
  | .base64 inner => do
    let (a, uses) ← scope.value inner
    return (.base64 a, uses)

def items (scope : Scope) : List Value → Except DocumentError (List ResolvedValue × List Use)
  | [] => .ok ([], [])
  | v :: vs => do
    let (a, usesA) ← scope.value v
    let (rest, usesB) ← scope.items vs
    return (a :: rest, usesA ++ usesB)

def entries (scope : Scope) : List (String × Value) →
    Except DocumentError (List (String × ResolvedValue) × List Use)
  | [] => .ok ([], [])
  | (key, v) :: vs => do
    let (a, usesA) ← scope.value v
    let (rest, usesB) ← scope.entries vs
    return ((key, a) :: rest, usesA ++ usesB)

end

def value? (scope : Scope) : Option Value → Except DocumentError (Option ResolvedValue × List Use)
  | none => .ok (none, [])
  | some v => do
    let (a, uses) ← scope.value v
    return (some a, uses)

def condition? (scope : Scope) : Option LogicalId → Except DocumentError (List Use)
  | none => .ok []
  | some name => do
    let sec ← scope.lookup .condition name
    return [⟨name, sec⟩]

def dependencies (scope : Scope) : List LogicalId → Except DocumentError Unit
  | [] => .ok ()
  | id :: rest => do
    let _ ← scope.lookup .dependsOn id
    scope.dependencies rest

end Scope

def extendListed (listed : List LogicalId) : List LogicalId → List LogicalId
  | [] => listed
  | id :: rest => extendListed (if id ∈ listed then listed else listed ++ [id]) rest

namespace Declaration

def misplaced? (d : Declaration) : Option String :=
  let keys := Entries.keys d.attributes
  if d.sec ≠ .resource ∧ d.dependsOn ≠ [] then some "DependsOn"
  else if d.sec ≠ .resource ∧ d.updatePolicy.isSome then some "UpdatePolicy"
  else if d.sec ≠ .resource ∧ d.deletionPolicy.isSome then some "DeletionPolicy"
  else match d.sec with
    | .parameter => if d.condition.isSome then some "Condition" else none
    | .condition => if d.condition.isSome then some "Condition" else keys.find? (· ≠ expressionKey)
    | .resource => none
    | .output => keys.find? (· ∉ ["Value", "Description", "Export"])

def checkShape (d : Declaration) : Except DocumentError Unit :=
  match d.misplaced? with
  | some setting => .error (.unsupportedAttribute d.id d.sec setting)
  | none => .ok ()

-- A parameter is filled in from outside, so what its declaration names is not put to use by it.
def resolve (d : Declaration) (doc : Document) (position : Nat) :
    Except DocumentError (ResolvedDeclaration × List LogicalId) := do
  d.checkShape
  let scope : Scope := ⟨doc, d, position⟩
  let (attributes, attributeUses) ← scope.entries d.attributes
  let (updatePolicy, policyUses) ← scope.value? d.updatePolicy
  let conditionUses ← scope.condition? d.condition
  scope.dependencies d.dependsOn
  let named := attributeUses ++ policyUses
  let resources := (named.filter (·.sec = .resource)).map (·.target)
  let dependsOn := if d.sec = .resource then extendListed d.dependsOn resources else []
  let used := if d.sec = .parameter then [] else (named ++ conditionUses).map (·.target)
  return ({ id := d.id, sec := d.sec, kind := d.kind, attributes, dependsOn,
            condition := d.condition, updatePolicy, deletionPolicy := d.deletionPolicy }, used)

end Declaration

namespace Document

def resolveFrom (doc : Document) : (position : Nat) → List Declaration →
    Except DocumentError (List ResolvedDeclaration × List LogicalId)
  | _, [] => .ok ([], [])
  | position, d :: rest => do
    let (resolved, used) ← d.resolve doc position
    let (more, usedMore) ← doc.resolveFrom (position + 1) rest
    return (resolved :: more, used ++ usedMore)

def resolve (doc : Document) (options : LintOptions := {}) :
    Except DocumentError ResolvedDocument := do
  let (declarations, used) ← doc.resolveFrom 0 doc.declarations
  let advisories ← doc.lint used options
  return { description := doc.description, formatVersion := doc.formatVersion,
           declarations, advisories }

end Document

end StackTemplate
