import StackTemplate.Command.Arguments
import StackTemplate.Files
import StackTemplate.Settings.Schema
import StackTemplate.Stack

namespace StackTemplate

structure Job where
  stack : String
  config : Option String := none
  output : Option String := none
  compact : Bool := false
  strict : Bool := false
  deriving DecidableEq, Repr

inductive Request where
  | list
  | assemble (job : Job)
  deriving DecidableEq, Repr

def Arguments.request (arguments : Arguments) : Except UsageError Request :=
  if arguments.list then .ok .list
  else match arguments.stack with
    | none => .error .noStack
    | some stack => .ok (.assemble { stack, config := arguments.config, output := arguments.output,
                                     compact := arguments.compact, strict := arguments.strict })

def Request.ofArguments (arguments : List String) : Except UsageError Request := do
  (← Arguments.ofList arguments).request

inductive CommandError where
  | unknownStack (cause : UnknownStack)
  | settings (path : String) (cause : SettingsError)
  | building (stack : Stack) (cause : DocumentError)
  | assembling (cause : AssemblyError)
  | writing (path : String) (cause : FileError)

def CommandError.message : CommandError → String
  | .unknownStack cause => "Error: " ++ cause.message
  | .settings path cause => s!"Error loading config '{path}': {cause.message}"
  | .building stack cause => s!"Error building stack '{stack.name}': {cause.message}"
  | .assembling cause => "Error: " ++ cause.message
  | .writing path cause => s!"Error writing file '{path}': {cause.message}"

def Settings.ofFile (content : Except FileError ByteArray) : Except SettingsError Settings := do
  let bytes ← content.mapError .unreadable
  let text ← (textOfBytes bytes).mapError .unreadable
  ofText text

namespace Job

def adjust (job : Job) (settings : Settings) : Settings :=
  let settings := if job.compact then settings.withPretty false else settings
  if job.strict then settings.strict else settings

def template (stack : Stack) (settings : Settings) : Except CommandError String := do
  let doc ← (stack.build settings).mapError (.building stack)
  let assembly ← (doc.assemble settings.assembly).mapError .assembling
  return assembly.template

variable {m : Type → Type} [Monad m]

def settings (job : Job) (files : FileAccess m) : m (Except CommandError Settings) := do
  match job.config with
  | none => return .ok (job.adjust {})
  | some path =>
    let content ← files.read path
    return ((Settings.ofFile content).mapError (.settings path)).map job.adjust

def deliver (job : Job) (files : FileAccess m) (template : String) :
    m (Except CommandError String) := do
  match job.output with
  | none => return .ok (template ++ "\n")
  | some path =>
    match ← files.write path (template ++ "\n") with
    | .ok _ => return .ok s!"Template written to: {path}\n"
    | .error cause => return .error (.writing path cause)

-- The stack's name is judged before any file is looked at.
def perform (job : Job) (files : FileAccess m) : m (Except CommandError String) := do
  match Stack.named job.stack with
  | .error cause => return .error (.unknownStack cause)
  | .ok stack =>
    match ← job.settings files with
    | .error cause => return .error cause
    | .ok settings =>
      match template stack settings with
      | .error cause => return .error cause
      | .ok text => job.deliver files text

end Job

structure Outcome where
  status : UInt32
  output : String := ""
  errors : String := ""
  deriving DecidableEq, Repr

namespace Command

variable {m : Type → Type} [Monad m]

-- Status 0 is success, 1 a job that failed, 2 arguments that mean nothing.
def run (files : FileAccess m) (arguments : List String) : m Outcome := do
  match Request.ofArguments arguments with
  | .error cause => return { status := 2, errors := cause.message ++ "\n" }
  | .ok .list => return { status := 0, output := Stack.listing }
  | .ok (.assemble job) =>
    match ← job.perform files with
    | .ok text => return { status := 0, output := text }
    | .error cause => return { status := 1, errors := cause.message ++ "\n" }

end Command

end StackTemplate
