import StackTemplate.Reference

namespace StackTemplate

inductive DocumentError where
  | duplicateId (id : LogicalId) (existing : Section)
  | invalidLogicalId (id : LogicalId)
  | unresolvedReference (target source : LogicalId) (suggestions : List LogicalId)
  | selfReference (id : LogicalId)
  | sectionMismatch (source target : LogicalId) (kind : ReferenceKind) (found : Section)
  | forwardReference (source target : LogicalId)
  | unexpectedSection (id : LogicalId) (expected found : Section)
  | unsupportedAttribute (id : LogicalId) (sec : Section) (setting : String)
  | unusedDeclarations (sec : Section) (ids : List LogicalId)
  deriving DecidableEq, Repr

namespace DocumentError

def listed (ids : List LogicalId) : String := ", ".intercalate (ids.map (·.text))

def message : DocumentError → String
  | .duplicateId id existing =>
    s!"duplicate logical id '{id.text}': already declared as a {existing.noun}"
  | .invalidLogicalId id => s!"invalid logical id '{id.text}': must be non-empty and alphanumeric"
  | .unresolvedReference target source suggestions =>
    let hint := if suggestions.isEmpty then "" else s!" (did you mean {listed suggestions}?)"
    s!"unresolved reference to '{target.text}' from '{source.text}'{hint}"
  | .selfReference id => s!"declaration '{id.text}' references itself"
  | .sectionMismatch source target kind found =>
    let expected := " or ".intercalate (kind.allowed.map Section.noun)
    s!"'{source.text}' uses {kind.word} on '{target.text}', which is a {found.noun} (expected {expected})"
  | .forwardReference source target =>
    s!"'{source.text}' references '{target.text}', which is registered after it"
  | .unexpectedSection id expected found =>
    s!"'{id.text}' is a {found.noun}, expected a {expected.noun}"
  | .unsupportedAttribute id sec setting => s!"{sec.noun} '{id.text}' cannot carry {setting}"
  | .unusedDeclarations sec ids => s!"unused {sec.noun} declarations: {listed ids}"

def subject? : DocumentError → Option LogicalId
  | .duplicateId id _ => some id
  | .invalidLogicalId id => some id
  | .unresolvedReference target _ _ => some target
  | .selfReference id => some id
  | .sectionMismatch _ target _ _ => some target
  | .forwardReference _ target => some target
  | .unexpectedSection id _ _ => some id
  | .unsupportedAttribute id _ _ => some id
  | .unusedDeclarations _ _ => none

end DocumentError

end StackTemplate
