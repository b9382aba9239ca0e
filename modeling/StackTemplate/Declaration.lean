import StackTemplate.Value

namespace StackTemplate

-- The part of the document a declaration stands in. All parts share one set of names.
inductive Section where
  | parameter | condition | resource | output
  deriving DecidableEq, Repr

namespace Section

def all : List Section := [.parameter, .condition, .resource, .output]

def noun : Section → String
  | .parameter => "parameter"
  | .condition => "condition"
  | .resource => "resource"
  | .output => "output"

def key : Section → String
  | .parameter => "Parameters"
  | .condition => "Conditions"
  | .resource => "Resources"
  | .output => "Outputs"

end Section

inductive DeletionPolicy where
  | delete | retain | snapshot
  deriving DecidableEq, Repr

def DeletionPolicy.word : DeletionPolicy → String
  | .delete => "Delete"
  | .retain => "Retain"
  | .snapshot => "Snapshot"

structure Declaration where
  id : LogicalId
  sec : Section
  kind : String
  attributes : Entries Value
  dependsOn : List LogicalId := []
  condition : Option LogicalId := none
  updatePolicy : Option Value := none
  deletionPolicy : Option DeletionPolicy := none

structure ParameterSpec where
  kind : String
  attributes : Entries Value := []

namespace ParameterSpec

def string : ParameterSpec := ⟨"String", []⟩
def number : ParameterSpec := ⟨"Number", []⟩

def set (spec : ParameterSpec) (key : String) (value : Value) : ParameterSpec :=
  { spec with attributes := Entries.insert spec.attributes key value }

def description (spec : ParameterSpec) (text : String) : ParameterSpec := spec.set "Description" text
def default (spec : ParameterSpec) (value : Value) : ParameterSpec := spec.set "Default" value
def allowedPattern (spec : ParameterSpec) (pattern : String) : ParameterSpec :=
  spec.set "AllowedPattern" pattern
def allowedValues (spec : ParameterSpec) (values : List Value) : ParameterSpec :=
  spec.set "AllowedValues" (.list values)
def minLength (spec : ParameterSpec) (length : Int) : ParameterSpec :=
  spec.set "MinLength" (.number (.int length))
def maxLength (spec : ParameterSpec) (length : Int) : ParameterSpec :=
  spec.set "MaxLength" (.number (.int length))
def minValue (spec : ParameterSpec) (value : Int) : ParameterSpec :=
  spec.set "MinValue" (.number (.int value))
def maxValue (spec : ParameterSpec) (value : Int) : ParameterSpec :=
  spec.set "MaxValue" (.number (.int value))
def noEcho (spec : ParameterSpec) : ParameterSpec := spec.set "NoEcho" true
def constraintDescription (spec : ParameterSpec) (text : String) : ParameterSpec :=
  spec.set "ConstraintDescription" text

def default? (spec : ParameterSpec) : Option Value := Entries.find? spec.attributes "Default"

end ParameterSpec

namespace Declaration

def expressionKey : String := "Expression"

def parameter (id : LogicalId) (spec : ParameterSpec) : Declaration :=
  { id, sec := .parameter, kind := spec.kind, attributes := spec.attributes }

def resource (id : LogicalId) (kind : String) (properties : Entries Value) : Declaration :=
  { id, sec := .resource, kind, attributes := properties }

def output (id : LogicalId) (value : Value) : Declaration :=
  { id, sec := .output, kind := "", attributes := [("Value", value)] }

def ofCondition (id : LogicalId) (expression : Value) : Declaration :=
  { id, sec := .condition, kind := "", attributes := [(expressionKey, expression)] }

def setAttribute (d : Declaration) (key : String) (value : Value) : Declaration :=
  { d with attributes := Entries.insert d.attributes key value }

def describe (d : Declaration) (text : String) : Declaration := d.setAttribute "Description" text

def publish (d : Declaration) (name : Value) : Declaration :=
  d.setAttribute "Export" (.map [("Name", name)])

-- Asks for another resource to exist first. Asking twice is asking once.
def after (d : Declaration) (id : LogicalId) : Declaration :=
  if id ∈ d.dependsOn then d else { d with dependsOn := d.dependsOn ++ [id] }

def onlyIf (d : Declaration) (condition : LogicalId) : Declaration :=
  { d with condition := some condition }

def withUpdatePolicy (d : Declaration) (policy : Value) : Declaration :=
  { d with updatePolicy := some policy }

def withDeletionPolicy (d : Declaration) (policy : DeletionPolicy) : Declaration :=
  { d with deletionPolicy := some policy }

def attribute? (d : Declaration) (key : String) : Option Value := Entries.find? d.attributes key

end Declaration

end StackTemplate
