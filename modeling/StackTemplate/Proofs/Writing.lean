import StackTemplate.Assembly
import StackTemplate.Proofs.Verdict

namespace StackTemplate

mutual

-- The tree of a value, whatever its numbers are.
def ResolvedValue.json : ResolvedValue → Json
  | .string text => .string text
  | .number (.int n) => .number (.int n)
  | .number (.float x) => .number (.float x)
  | .bool b => .bool b
  | .list vs => .array (ResolvedValue.itemsJson vs)
  | .map vs => .object (ResolvedValue.membersJson vs)
  | .ref token => Template.call "Ref" (.string token)
  | .getAtt target name => Template.call "Fn::GetAtt" (.array [.string target, .string name])
  | .join separator vs =>
    Template.call "Fn::Join" (.array [.string separator, .array (ResolvedValue.itemsJson vs)])
  | .choose condition a b => Template.call "Fn::If" (.array [.string condition, a.json, b.json])
  | .equals a b => Template.call "Fn::Equals" (.array [a.json, b.json])
  | .base64 v => Template.call "Fn::Base64" v.json

def ResolvedValue.itemsJson : List ResolvedValue → List Json
  | [] => []
  | v :: vs => v.json :: ResolvedValue.itemsJson vs

def ResolvedValue.membersJson : List (String × ResolvedValue) → List (String × Json)
  | [] => []
  | (key, v) :: vs => (key, v.json) :: ResolvedValue.membersJson vs

end

mutual

-- The numbers in a value that cannot be written, each with its place, depth first, left to right.
def ResolvedValue.faults (path : Path) : ResolvedValue → List TemplateError
  | .number (.float x) => if x.isFinite then [] else [.nonFinite path x]
  | .list vs => ResolvedValue.itemFaults path 0 vs
  | .map vs => ResolvedValue.memberFaults path vs
  | .join _ vs => ResolvedValue.itemFaults (path.member "Fn::Join") 0 vs
  | .choose _ a b =>
    a.faults ((path.member "Fn::If").item 1) ++ b.faults ((path.member "Fn::If").item 2)
  | .equals a b =>
    a.faults ((path.member "Fn::Equals").item 0) ++ b.faults ((path.member "Fn::Equals").item 1)
  | .base64 v => v.faults (path.member "Fn::Base64")
  | _ => []

def ResolvedValue.itemFaults (path : Path) (index : Nat) : List ResolvedValue → List TemplateError
  | [] => []
  | v :: vs => v.faults (path.item index) ++ ResolvedValue.itemFaults path (index + 1) vs

def ResolvedValue.memberFaults (path : Path) : List (String × ResolvedValue) → List TemplateError
  | [] => []
  | (key, v) :: vs => v.faults (path.member key) ++ ResolvedValue.memberFaults path vs

end

namespace Template

mutual

theorem value_eq (path : Path) : ∀ v : ResolvedValue,
    value path v = settle (v.faults path).head? v.json
  | .string _ => rfl
  | .number (.int _) => rfl
  | .number (.float x) => by
    rw [value, ResolvedValue.faults, ResolvedValue.json]
    split <;> rfl
  | .bool _ => rfl
  | .list vs => by
    rw [value, items_eq path 0 vs]
    exact settle_then rfl
  | .map vs => by
    rw [value, members_eq path vs]
    exact settle_then rfl
  | .ref _ => rfl
  | .getAtt _ _ => rfl
  | .join separator vs => by
    rw [value, items_eq (path.member "Fn::Join") 0 vs]
    exact settle_then rfl
  | .choose condition a b => by
    rw [value, value_eq _ a, value_eq _ b, ResolvedValue.faults, List.head?_append]
    exact settle_bind (settle_then rfl)
  | .equals a b => by
    rw [value, value_eq _ a, value_eq _ b, ResolvedValue.faults, List.head?_append]
    exact settle_bind (settle_then rfl)
  | .base64 v => by
    rw [value, value_eq _ v]
    exact settle_then rfl

theorem items_eq (path : Path) (index : Nat) : ∀ vs : List ResolvedValue,
    items path index vs =
      settle (ResolvedValue.itemFaults path index vs).head? (ResolvedValue.itemsJson vs)
  | [] => rfl
  | v :: vs => by
    rw [items, value_eq _ v, items_eq path (index + 1) vs, ResolvedValue.itemFaults,
      List.head?_append]
    exact settle_bind (settle_then rfl)

theorem members_eq (path : Path) : ∀ vs : List (String × ResolvedValue),
    members path vs =
      settle (ResolvedValue.memberFaults path vs).head? (ResolvedValue.membersJson vs)
  | [] => rfl
  | (key, v) :: vs => by
    rw [members, value_eq _ v, members_eq path vs, ResolvedValue.memberFaults, List.head?_append]
    exact settle_bind (settle_then rfl)

end

end Template

namespace ResolvedDeclaration

def place (d : ResolvedDeclaration) : Path := { sec := d.sec, id := d.id }

def policyFaults (d : ResolvedDeclaration) : List TemplateError :=
  match d.updatePolicy with
  | some policy => policy.faults (d.place.member "UpdatePolicy")
  | none => []

def faults (d : ResolvedDeclaration) : List TemplateError :=
  match d.sec with
  | .condition =>
    match d.expression? with
    | some expression => expression.faults d.place
    | none => [.noExpression d.place]
  | .resource =>
    d.policyFaults ++ ResolvedValue.memberFaults (d.place.member "Properties") d.attributes
  | _ => ResolvedValue.memberFaults d.place d.attributes

def policyJson (d : ResolvedDeclaration) : List (String × Json) :=
  match d.updatePolicy with
  | some policy => [("UpdatePolicy", policy.json)]
  | none => []

-- The entry of a declaration. A condition without an expression has none.
def json (d : ResolvedDeclaration) : Json :=
  match d.sec with
  | .parameter =>
    .object (Entries.insertAll [("Type", .string d.kind)] (ResolvedValue.membersJson d.attributes))
  | .condition =>
    match d.expression? with
    | some expression => expression.json
    | none => .object []
  | .resource =>
    .object ([("Type", .string d.kind)] ++ Template.conditionMember d.condition
      ++ Template.dependsOnMember d.dependsOn ++ Template.deletionPolicyMember d.deletionPolicy
      ++ d.policyJson ++ [("Properties", .object (ResolvedValue.membersJson d.attributes))])
  | .output =>
    .object (Entries.insertAll (Template.conditionMember d.condition)
      (ResolvedValue.membersJson d.attributes))

end ResolvedDeclaration

namespace Template

theorem updatePolicy_eq (d : ResolvedDeclaration) :
    updatePolicy d.place d.updatePolicy = settle d.policyFaults.head? d.policyJson := by
  unfold updatePolicy ResolvedDeclaration.policyFaults ResolvedDeclaration.policyJson
  cases d.updatePolicy with
  | none => rfl
  | some policy =>
    dsimp only
    rw [value_eq]
    exact settle_then rfl

theorem resource_eq (d : ResolvedDeclaration) :
    Template.resource d.place d =
      settle (d.policyFaults ++
          ResolvedValue.memberFaults (d.place.member "Properties") d.attributes).head?
        (.object ([("Type", .string d.kind)] ++ Template.conditionMember d.condition
          ++ Template.dependsOnMember d.dependsOn ++ Template.deletionPolicyMember d.deletionPolicy
          ++ d.policyJson ++
          [("Properties", .object (ResolvedValue.membersJson d.attributes))])) := by
  unfold Template.resource
  rw [updatePolicy_eq, members_eq, List.head?_append]
  exact settle_bind (settle_then rfl)

theorem entry_eq (d : ResolvedDeclaration) : entry d = settle d.faults.head? d.json := by
  have place : ({ sec := d.sec, id := d.id } : Path) = d.place := rfl
  unfold entry ResolvedDeclaration.faults ResolvedDeclaration.json
  dsimp only
  rw [place]
  cases d.sec with
  | parameter =>
    dsimp only
    rw [members_eq]
    exact settle_then rfl
  | condition =>
    dsimp only
    cases d.expression? with
    | some expression => exact value_eq d.place expression
    | none => rfl
  | resource => exact resource_eq d
  | output =>
    dsimp only
    rw [members_eq]
    exact settle_then rfl

theorem sectionEntries_eq (ds : List ResolvedDeclaration) :
    sectionEntries ds =
      settle (ds.flatMap (·.faults)).head? (ds.map fun d => (d.id.text, d.json)) := by
  induction ds with
  | nil => rfl
  | cons d rest ih =>
    rw [sectionEntries, entry_eq, ih, List.flatMap_cons, List.head?_append]
    exact settle_bind (settle_then rfl)

end Template

namespace ResolvedDocument

def faults (doc : ResolvedDocument) (secs : List Section) : List TemplateError :=
  secs.flatMap fun sec => (doc.ofSection sec).flatMap (·.faults)

-- The sections of a template; one without declarations may be left out.
def sectionsJson (doc : ResolvedDocument) (options : TemplateOptions) (secs : List Section) :
    List (String × Json) :=
  (secs.filter fun sec => !((doc.ofSection sec).isEmpty && options.omitEmptySections)).map
    fun sec => (sec.key, .object (Entries.ofList ((doc.ofSection sec).map fun d => (d.id.text, d.json))))

def json (doc : ResolvedDocument) (options : TemplateOptions) : Json :=
  .object (("AWSTemplateFormatVersion", .string doc.formatVersion)
    :: ("Description", .string doc.description) :: doc.sectionsJson options Section.all)

theorem sections_eq (doc : ResolvedDocument) (options : TemplateOptions) (secs : List Section) :
    Template.sections doc options secs =
      settle (doc.faults secs).head? (doc.sectionsJson options secs) := by
  induction secs with
  | nil => rfl
  | cons sec rest ih =>
    have later : doc.faults (sec :: rest) =
        (doc.ofSection sec).flatMap (·.faults) ++ doc.faults rest := List.flatMap_cons
    rw [Template.sections, Template.sectionEntries_eq, ih, later, List.head?_append]
    refine settle_bind (settle_then ?_)
    simp only [sectionsJson, List.filter_cons, List.isEmpty_map]
    cases (doc.ofSection sec).isEmpty && options.omitEmptySections <;> rfl

theorem template_eq (doc : ResolvedDocument) (options : TemplateOptions) :
    doc.template options = settle (doc.faults Section.all).head? (doc.json options) := by
  rw [template, sections_eq]
  exact settle_then rfl

end ResolvedDocument

end StackTemplate
