import StackTemplate.Json
import StackTemplate.Resolution

namespace StackTemplate

inductive Step where
  | member (name : String)
  | item (index : Nat)
  deriving DecidableEq, Repr

structure Path where
  sec : Section
  id : LogicalId
  steps : List Step := []
  deriving DecidableEq, Repr

namespace Path

def member (path : Path) (name : String) : Path := { path with steps := path.steps ++ [.member name] }

def item (path : Path) (index : Nat) : Path := { path with steps := path.steps ++ [.item index] }

def stepText : Step → String
  | .member name => "." ++ name
  | .item index => s!"[{index}]"

def text (path : Path) : String :=
  path.sec.key ++ "." ++ path.id.text ++ String.join (path.steps.map stepText)

end Path

inductive TemplateError where
  | nonFinite (path : Path) (value : Binary64)
  | noExpression (path : Path)
  deriving DecidableEq, Repr

def TemplateError.message : TemplateError → String
  | .nonFinite path value =>
    s!"unserializable value at {path.text}: non-finite number {String.ofList value.text}"
  | .noExpression path => s!"unserializable value at {path.text}: condition has no expression"

structure TemplateOptions where
  pretty : Bool := true
  omitEmptySections : Bool := false
  deriving DecidableEq, Repr

namespace Template

def call (function : String) (argument : Json) : Json := .object [(function, argument)]

mutual

def value (path : Path) : ResolvedValue → Except TemplateError Json
  | .string text => .ok (.string text)
  | .number (.int n) => .ok (.number (.int n))
  | .number (.float x) => if x.isFinite then .ok (.number (.float x)) else .error (.nonFinite path x)
  | .bool b => .ok (.bool b)
  | .list vs => do
    return .array (← items path 0 vs)
  | .map vs => do
    return .object (← members path vs)
  | .ref token => .ok (call "Ref" (.string token))
  | .getAtt target name => .ok (call "Fn::GetAtt" (.array [.string target, .string name]))
  | .join separator vs => do
    let parts ← items (path.member "Fn::Join") 0 vs
    return call "Fn::Join" (.array [.string separator, .array parts])
  | .choose condition whenTrue whenFalse => do
    let a ← value ((path.member "Fn::If").item 1) whenTrue
    let b ← value ((path.member "Fn::If").item 2) whenFalse
    return call "Fn::If" (.array [.string condition, a, b])
  | .equals left right => do
    let a ← value ((path.member "Fn::Equals").item 0) left
    let b ← value ((path.member "Fn::Equals").item 1) right
    return call "Fn::Equals" (.array [a, b])
  | .base64 inner => do
    return call "Fn::Base64" (← value (path.member "Fn::Base64") inner)

def items (path : Path) (index : Nat) : List ResolvedValue → Except TemplateError (List Json)
  | [] => .ok []
  | v :: vs => do
    let a ← value (path.item index) v
    return a :: (← items path (index + 1) vs)

def members (path : Path) : List (String × ResolvedValue) →
    Except TemplateError (List (String × Json))
  | [] => .ok []
  | (key, v) :: vs => do
    let a ← value (path.member key) v
    return (key, a) :: (← members path vs)

end

def updatePolicy (path : Path) : Option ResolvedValue → Except TemplateError (List (String × Json))
  | none => .ok []
  | some policy => do
    return [("UpdatePolicy", ← value (path.member "UpdatePolicy") policy)]

def conditionMember (condition : Option LogicalId) : List (String × Json) :=
  (condition.map fun name => ("Condition", Json.string name.text)).toList

def dependsOnMember (ids : List LogicalId) : List (String × Json) :=
  if ids.isEmpty then [] else [("DependsOn", .array (ids.map (.string ·.text)))]

def deletionPolicyMember (policy : Option DeletionPolicy) : List (String × Json) :=
  (policy.map fun p => ("DeletionPolicy", Json.string p.word)).toList

def resource (path : Path) (d : ResolvedDeclaration) : Except TemplateError Json := do
  let policy ← updatePolicy path d.updatePolicy
  let properties ← members (path.member "Properties") d.attributes
  return .object ([("Type", .string d.kind)] ++ conditionMember d.condition
    ++ dependsOnMember d.dependsOn ++ deletionPolicyMember d.deletionPolicy ++ policy
    ++ [("Properties", .object properties)])

-- The attributes of a parameter and of an output share one object with what stands before
-- them, so they are written into it key by key.
def entry (d : ResolvedDeclaration) : Except TemplateError Json :=
  let path : Path := { sec := d.sec, id := d.id }
  match d.sec with
  | .parameter => do
    return .object (Entries.insertAll [("Type", .string d.kind)] (← members path d.attributes))
  | .condition =>
    match d.expression? with
    | some expression => value path expression
    | none => .error (.noExpression path)
  | .resource => resource path d
  | .output => do
    return .object (Entries.insertAll (conditionMember d.condition) (← members path d.attributes))

def sectionEntries : List ResolvedDeclaration → Except TemplateError (List (String × Json))
  | [] => .ok []
  | d :: rest => do
    let a ← entry d
    return (d.id.text, a) :: (← sectionEntries rest)

def sections (doc : ResolvedDocument) (options : TemplateOptions) :
    List Section → Except TemplateError (List (String × Json))
  | [] => .ok []
  | sec :: rest => do
    let entries ← sectionEntries (doc.ofSection sec)
    let more ← sections doc options rest
    if entries.isEmpty && options.omitEmptySections then return more
    else return (sec.key, .object (Entries.ofList entries)) :: more

end Template

namespace ResolvedDocument

def template (doc : ResolvedDocument) (options : TemplateOptions) : Except TemplateError Json := do
  let members ← Template.sections doc options Section.all
  return .object (("AWSTemplateFormatVersion", .string doc.formatVersion)
    :: ("Description", .string doc.description) :: members)

end ResolvedDocument

end StackTemplate
