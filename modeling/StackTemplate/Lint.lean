import StackTemplate.Document

namespace StackTemplate

inductive LintLevel where
  | allow | warn | deny
  deriving DecidableEq, Repr

structure LintOptions where
  unusedParameters : LintLevel := .warn
  unusedConditions : LintLevel := .warn
  deriving DecidableEq, Repr

def LintOptions.strict : LintOptions := ⟨.deny, .deny⟩

inductive AdvisoryKind where
  | unusedParameter | unusedCondition
  deriving DecidableEq, Repr

structure Advisory where
  kind : AdvisoryKind
  id : LogicalId
  deriving DecidableEq, Repr

namespace AdvisoryKind

def sec : AdvisoryKind → Section
  | .unusedParameter => .parameter
  | .unusedCondition => .condition

def word : AdvisoryKind → String
  | .unusedParameter => "unused-parameter"
  | .unusedCondition => "unused-condition"

end AdvisoryKind

namespace Advisory

def message (advisory : Advisory) : String :=
  s!"{advisory.kind.sec.noun} '{advisory.id.text}' is declared but never referenced"

def text (advisory : Advisory) : String := s!"{advisory.kind.word}: {advisory.message}"

end Advisory

namespace Document

def unused (doc : Document) (sec : Section) (used : List LogicalId) : List LogicalId :=
  ((doc.ofSection sec).map (·.id)).filter (· ∉ used)

def lintOne (doc : Document) (used : List LogicalId) (kind : AdvisoryKind) (level : LintLevel) :
    Except DocumentError (List Advisory) :=
  let ids := doc.unused kind.sec used
  match level with
  | .allow => .ok []
  | .warn => .ok (ids.map (⟨kind, ·⟩))
  | .deny => if ids.isEmpty then .ok [] else .error (.unusedDeclarations kind.sec ids)

def lint (doc : Document) (used : List LogicalId) (options : LintOptions) :
    Except DocumentError (List Advisory) := do
  let parameters ← doc.lintOne used .unusedParameter options.unusedParameters
  let conditions ← doc.lintOne used .unusedCondition options.unusedConditions
  return parameters ++ conditions

end Document

end StackTemplate
