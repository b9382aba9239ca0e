namespace StackTemplate

inductive Flag where
  | compact | strict | list
  deriving DecidableEq, Repr

inductive FileRole where
  | config | output
  deriving DecidableEq, Repr

inductive UsageError where
  | unknown (argument : String)
  | repeated (name : String)
  | missingValue (name : String)
  | surplusValue (name : String)
  | surplusWord (text : String)
  | noStack
  deriving DecidableEq, Repr

def UsageError.message : UsageError → String
  | .unknown argument => s!"error: unexpected argument '{argument}'"
  | .repeated name => s!"error: the argument '{name}' cannot be used multiple times"
  | .missingValue name => s!"error: a value is required for '{name}'"
  | .surplusValue name => s!"error: no value is expected for '{name}'"
  | .surplusWord text => s!"error: unexpected argument '{text}'"
  | .noStack => "error: a stack is required"

def Flag.name : Flag → String
  | .compact => "--compact"
  | .strict => "--strict"
  | .list => "--list"

def FileRole.name : FileRole → String
  | .config => "--config"
  | .output => "--output"

namespace Arguments

inductive Named where
  | flag (flag : Flag)
  | file (role : FileRole)
  deriving DecidableEq, Repr

def Named.ofWord? : String → Option Named
  | "compact" => some (.flag .compact)
  | "strict" => some (.flag .strict)
  | "list" => some (.flag .list)
  | "config" => some (.file .config)
  | "output" => some (.file .output)
  | _ => none

def Named.ofLetter? : Char → Option Named
  | 'l' => some (.flag .list)
  | 'c' => some (.file .config)
  | 'o' => some (.file .output)
  | _ => none

structure FileOption where
  role : FileRole
  attached : Option (List Char)
  deriving DecidableEq, Repr

inductive Shape where
  | word
  | onlyWords
  | options (flags : List Flag) (file : Option FileOption)
  deriving DecidableEq, Repr

-- Letters behind one dash. After the letter of an option the rest is its value.
def letters (argument : String) : List Char → Except UsageError (List Flag × Option FileOption)
  | [] => .ok ([], none)
  | letter :: rest =>
    match Named.ofLetter? letter with
    | none => .error (.unknown argument)
    | some (.flag flag) => do
      let (flags, file) ← letters argument rest
      return (flag :: flags, file)
    | some (.file role) =>
      match rest with
      | [] => .ok ([], some ⟨role, none⟩)
      | '=' :: value => .ok ([], some ⟨role, some value⟩)
      | value => .ok ([], some ⟨role, some value⟩)

def longName (argument : String) (body : List Char) :
    Except UsageError (List Flag × Option FileOption) :=
  let name := body.takeWhile (· ≠ '=')
  let value? := match body.dropWhile (· ≠ '=') with
    | _ :: value => some value
    | [] => none
  match Named.ofWord? (String.ofList name), value? with
  | none, _ => .error (.unknown argument)
  | some (.flag flag), none => .ok ([flag], none)
  | some (.flag flag), some _ => .error (.surplusValue flag.name)
  | some (.file role), value? => .ok ([], some ⟨role, value?⟩)

def shape (argument : String) : Except UsageError Shape :=
  match argument.toList with
  | ['-', '-'] => .ok .onlyWords
  | '-' :: '-' :: body => do
    let (flags, file) ← longName argument body
    return .options flags file
  | ['-'] => .ok .word
  | '-' :: body => do
    let (flags, file) ← letters argument body
    return .options flags file
  | _ => .ok .word

inductive Item where
  | word (text : String)
  | flag (flag : Flag)
  | file (role : FileRole) (path : String)
  deriving DecidableEq, Repr

def fileItem (role : FileRole) (path : String) : Except UsageError Item :=
  if path.isEmpty then .error (.missingValue role.name) else .ok (.file role path)

def items : List String → Except UsageError (List Item)
  | [] => .ok []
  | argument :: rest => do
    match ← shape argument with
    | .word => return .word argument :: (← items rest)
    | .onlyWords => return rest.map .word
    | .options flags none => return flags.map .flag ++ (← items rest)
    | .options flags (some ⟨role, some value⟩) =>
      let file ← fileItem role (String.ofList value)
      return flags.map .flag ++ file :: (← items rest)
    | .options flags (some ⟨role, none⟩) =>
      match rest with
      | [] => throw (.missingValue role.name)
      | value :: rest =>
        match ← shape value with
        | .word =>
          let file ← fileItem role value
          return flags.map .flag ++ file :: (← items rest)
        | _ => throw (.missingValue role.name)

end Arguments

structure Arguments where
  stack : Option String := none
  config : Option String := none
  output : Option String := none
  compact : Bool := false
  strict : Bool := false
  list : Bool := false
  deriving DecidableEq, Repr

namespace Arguments

def add (arguments : Arguments) : Item → Except UsageError Arguments
  | .word text =>
    if arguments.stack.isSome then .error (.surplusWord text)
    else .ok { arguments with stack := some text }
  | .flag .compact =>
    if arguments.compact then .error (.repeated Flag.compact.name)
    else .ok { arguments with compact := true }
  | .flag .strict =>
    if arguments.strict then .error (.repeated Flag.strict.name)
    else .ok { arguments with strict := true }
  | .flag .list =>
    if arguments.list then .error (.repeated Flag.list.name)
    else .ok { arguments with list := true }
  | .file .config path =>
    if arguments.config.isSome then .error (.repeated FileRole.config.name)
    else .ok { arguments with config := some path }
  | .file .output path =>
    if arguments.output.isSome then .error (.repeated FileRole.output.name)
    else .ok { arguments with output := some path }

def ofList (arguments : List String) : Except UsageError Arguments := do
  (← items arguments).foldlM add {}

end Arguments

end StackTemplate
