import StackTemplate.Addressing
import StackTemplate.Assembly
import StackTemplate.Tagging

namespace StackTemplate

structure Settings where
  template : TemplateOptions := {}
  lint : LintOptions := {}
  addressing : Addressing := {}
  tagging : Tagging := {}
  deriving DecidableEq, Repr

namespace Settings

def assembly (settings : Settings) : AssemblyOptions := ⟨settings.lint, settings.template⟩

def strict (settings : Settings) : Settings := { settings with lint := .strict }

def withPretty (settings : Settings) (pretty : Bool) : Settings :=
  { settings with template := { settings.template with pretty } }

end Settings

end StackTemplate
