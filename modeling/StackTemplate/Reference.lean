import StackTemplate.Declaration

namespace StackTemplate

inductive ReferenceKind where
  | ref | getAtt | choose | condition | dependsOn
  deriving DecidableEq, Repr

namespace ReferenceKind

def word : ReferenceKind → String
  | .ref => "Ref"
  | .getAtt => "Fn::GetAtt"
  | .choose => "Fn::If"
  | .condition => "Condition"
  | .dependsOn => "DependsOn"

def allowed : ReferenceKind → List Section
  | .ref => [.parameter, .resource]
  | .getAtt => [.resource]
  | .choose => [.condition]
  | .condition => [.condition]
  | .dependsOn => [.resource]

end ReferenceKind

end StackTemplate
