import StackTemplate.Package

namespace StackTemplate

structure Tagging where
  classification : String := "Gold"
  deriving DecidableEq, Repr

structure TagHandles where
  name : LogicalId
  email : LogicalId
  classification : LogicalId
  costcenter : LogicalId
  deriving DecidableEq, Repr

namespace Tagging

def nameId : LogicalId := "tagName"
def emailId : LogicalId := "tagEmail"
def classificationId : LogicalId := "tagClassification"
def costcenterId : LogicalId := "tagCostcenter"

def parameters (tagging : Tagging) : List Declaration :=
  [ .parameter nameId (.description .string
      "Name assigned to the stack. Format: \x7bappGroup\x7d-\x7bappName\x7d"),
    .parameter emailId (.description .string
      "E-mail address for group or person responsible for the stack."),
    .parameter classificationId ((ParameterSpec.string.description
      "Denotes which category of Data Classification the instance is grouped under.").default
      tagging.classification),
    .parameter costcenterId (.description .string
      "Represents the Cost Center associated with the team/project.") ]

def package (tagging : Tagging) : Package := ⟨tagging.parameters.map fun d => (d.id.text, d)⟩

def registerInto (tagging : Tagging) : Drafting TagHandles := do
  let _ ← tagging.package.registerInto
  return ⟨nameId, emailId, classificationId, costcenterId⟩

def tag (key : String) (value : Value) : Value := .map [("Key", key), ("Value", value)]

def propagatedTag (key : String) (value : Value) : Value :=
  .map [("Key", key), ("Value", value), ("PropagateAtLaunch", true)]

end Tagging

namespace TagHandles
open Tagging

def tags (handles : TagHandles) : Value :=
  .list [tag "Name" (.ref handles.name), tag "email" (.ref handles.email),
    tag "classification" (.ref handles.classification), tag "costcenter" (.ref handles.costcenter)]

-- An address updater finds what it has to keep by this name and this marker.
def gatewayTags (handles : TagHandles) : Value :=
  .list [tag "Name" "cloudfront", tag "AutoUpdate" "true", tag "email" (.ref handles.email),
    tag "classification" (.ref handles.classification), tag "costcenter" (.ref handles.costcenter)]

def autoscalingTags (handles : TagHandles) : Value :=
  .list [propagatedTag "Name" (.ref handles.name), propagatedTag "email" (.ref handles.email),
    propagatedTag "classification" (.ref handles.classification),
    propagatedTag "costcenter" (.ref handles.costcenter)]

def tagMap (handles : TagHandles) : Value :=
  .map [("Name", .ref handles.name), ("email", .ref handles.email),
    ("classification", .ref handles.classification), ("costcenter", .ref handles.costcenter)]

end TagHandles

end StackTemplate
