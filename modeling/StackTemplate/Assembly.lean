import StackTemplate.Template

namespace StackTemplate

inductive AssemblyError where
  | document (cause : DocumentError)
  | template (cause : TemplateError)
  deriving DecidableEq, Repr

def AssemblyError.message : AssemblyError → String
  | .document cause => "resolution error: " ++ cause.message
  | .template cause => "serialization error: " ++ cause.message

structure AssemblyOptions where
  lint : LintOptions := {}
  template : TemplateOptions := {}
  deriving DecidableEq, Repr

structure Assembly where
  template : String
  advisories : List Advisory

def Document.assemble (doc : Document) (options : AssemblyOptions) :
    Except AssemblyError Assembly := do
  let resolved ← (doc.resolve options.lint).mapError .document
  let tree ← (resolved.template options.template).mapError .template
  return ⟨tree.text options.template.pretty, resolved.advisories⟩

end StackTemplate
