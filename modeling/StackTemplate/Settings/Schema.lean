import StackTemplate.Binary64.Shortest
import StackTemplate.FileError
import StackTemplate.Settings
import StackTemplate.Text.Visible
import StackTemplate.Toml.Document

namespace StackTemplate

inductive SettingGroup where
  | output | lint | network | tags
  deriving DecidableEq, Repr

inductive Setting where
  | pretty | omitEmptySections
  | unusedParameters | unusedConditions
  | vpcBlock | gatewayBlock | subnetBlocks
  | classification
  deriving DecidableEq, Repr

namespace Setting

def key : Setting → String
  | .pretty => "pretty"
  | .omitEmptySections => "omit_empty_sections"
  | .unusedParameters => "unused_parameters"
  | .unusedConditions => "unused_conditions"
  | .vpcBlock => "vpc_cidr_block"
  | .gatewayBlock => "gateway_cidr_block"
  | .subnetBlocks => "subnet_cidr_blocks"
  | .classification => "default_classification"

end Setting

namespace SettingGroup

def all : List SettingGroup := [.output, .lint, .network, .tags]

def key : SettingGroup → String
  | .output => "output"
  | .lint => "lint"
  | .network => "network"
  | .tags => "tags"

def title : SettingGroup → String
  | .output => "struct TomlOutput"
  | .lint => "struct TomlLint"
  | .network => "struct TomlNetwork"
  | .tags => "struct TomlTags"

def members : SettingGroup → List Setting
  | .output => [.pretty, .omitEmptySections]
  | .lint => [.unusedParameters, .unusedConditions]
  | .network => [.vpcBlock, .gatewayBlock, .subnetBlocks]
  | .tags => [.classification]

end SettingGroup

namespace LintLevel

def all : List LintLevel := [.allow, .warn, .deny]

def word : LintLevel → String
  | .allow => "allow"
  | .warn => "warn"
  | .deny => "deny"

end LintLevel

inductive Wanted where
  | boolean | string | sequence
  | group (group : SettingGroup)
  deriving DecidableEq, Repr

inductive SchemaError where
  | unknownGroup (key : String)
  | unknownSetting (key : String) (group : SettingGroup)
  | wrongKind (found : Toml) (wanted : Wanted)
  | tooShort (count : Nat) (group : SettingGroup)
  | unknownLevel (word : String)
  | noLevel
  | levelCount (count : Nat)
  | levelContent (found : Toml)

namespace SchemaError

def found : Toml → String
  | .string text => "string " ++ Text.quotedVisible text
  | .integer n => s!"integer `{n}`"
  | .float x => s!"floating point `{String.ofList x.positionalText}`"
  | .boolean b => s!"boolean `{b}`"
  | .datetime _ => "map"
  | .array _ => "sequence"
  | .tables _ => "sequence"
  | .table _ => "map"

def wanted : Wanted → String
  | .boolean => "a boolean"
  | .string => "a string"
  | .sequence => "a sequence"
  | .group group => group.title

def choices (names : List String) : String :=
  match names.map fun name => s!"`{name}`" with
  | [one, other] => s!"{one} or {other}"
  | [one] => one
  | quoted => "one of " ++ ", ".intercalate quoted

def contentMessage : Toml → String
  | .table _ => "expected empty table"
  | .array _ => "expected empty table"
  | .tables _ => "expected empty array"
  | .string _ => "expected table, found string"
  | .integer _ => "expected table, found integer"
  | .float _ => "expected table, found float"
  | .boolean _ => "expected table, found boolean"
  | .datetime _ => "expected table, found datetime"

def message : SchemaError → String
  | .unknownGroup key =>
    s!"unknown field `{key}`, expected {choices (SettingGroup.all.map SettingGroup.key)}"
  | .unknownSetting key group =>
    s!"unknown field `{key}`, expected {choices (group.members.map Setting.key)}"
  | .wrongKind value kind => s!"invalid type: {found value}, expected {wanted kind}"
  | .tooShort count group =>
    let size := group.members.length
    let elements := if size = 1 then "element" else "elements"
    s!"invalid length {count}, expected {group.title} with {size} {elements}"
  | .unknownLevel word =>
    s!"unknown variant `{word}`, expected {choices (LintLevel.all.map LintLevel.word)}"
  | .noLevel => "wanted string or table"
  | .levelCount 0 => "wanted exactly 1 element, found 0 elements"
  | .levelCount _ => "wanted exactly 1 element, more than 1 element"
  | .levelContent content => contentMessage content

end SchemaError

-- The key under which a moment in time counts as a table.
def momentKey : String := "$__toml_private_datetime"

namespace Setting

def readBoolean : Toml → Except SchemaError Bool
  | .boolean b => .ok b
  | other => .error (.wrongKind other .boolean)

def readString : Toml → Except SchemaError String
  | .string text => .ok text
  | other => .error (.wrongKind other .string)

def readStrings (value : Toml) : Except SchemaError (List String) :=
  match value.items? with
  | some items => items.mapM readString
  | none => .error (.wrongKind value .sequence)

def levelOfWord (word : String) : Except SchemaError LintLevel :=
  match LintLevel.all.find? (·.word = word) with
  | some level => .ok level
  | none => .error (.unknownLevel word)

def isEmpty : Toml → Bool
  | .table entries => entries.isEmpty
  | other => (other.items?.map List.isEmpty).getD false

-- A level is given by its word, or as a table with that word as its only key.
def readLevel : Toml → Except SchemaError LintLevel
  | .string word => levelOfWord word
  | .table [(word, content)] => do
    let level ← levelOfWord word
    if isEmpty content then return level else throw (.levelContent content)
  | .table entries => .error (.levelCount entries.length)
  | _ => .error .noLevel

def apply (setting : Setting) (value : Toml) (settings : Settings) : Except SchemaError Settings :=
  match setting with
  | .pretty => do
    return { settings with template := { settings.template with pretty := ← readBoolean value } }
  | .omitEmptySections => do
    return { settings with
      template := { settings.template with omitEmptySections := ← readBoolean value } }
  | .unusedParameters => do
    return { settings with lint := { settings.lint with unusedParameters := ← readLevel value } }
  | .unusedConditions => do
    return { settings with lint := { settings.lint with unusedConditions := ← readLevel value } }
  | .vpcBlock => do
    return { settings with addressing := { settings.addressing with vpcBlock := ← readString value } }
  | .gatewayBlock => do
    return { settings with
      addressing := { settings.addressing with gatewayBlock := ← readString value } }
  | .subnetBlocks => do
    return { settings with
      addressing := { settings.addressing with subnetBlocks := ← readStrings value } }
  | .classification => do
    return { settings with tagging := { classification := ← readString value } }

end Setting

namespace SettingGroup

def applyTable (group : SettingGroup) : List (String × Toml) → Settings →
    Except SchemaError Settings
  | [], settings => .ok settings
  | (key, value) :: rest, settings =>
    match group.members.find? (·.key = key) with
    | none => .error (.unknownSetting key group)
    | some setting => do
      let settings ← setting.apply value settings
      group.applyTable rest settings

def applyItems (group : SettingGroup) (count : Nat) : List Setting → List Toml → Settings →
    Except SchemaError Settings
  | [], _, settings => .ok settings
  | _ :: _, [], _ => .error (.tooShort count group)
  | setting :: more, item :: items, settings => do
    let settings ← setting.apply item settings
    group.applyItems (count + 1) more items settings

-- A group is given as a table, or as an array of its settings in order.
def apply (group : SettingGroup) (value : Toml) (settings : Settings) :
    Except SchemaError Settings :=
  match value with
  | .table entries => group.applyTable entries settings
  | .datetime _ => .error (.unknownSetting momentKey group)
  | other =>
    match other.items? with
    | some items => group.applyItems 0 group.members items settings
    | none => .error (.wrongKind other (.group group))

end SettingGroup

inductive SettingsError where
  | unreadable (cause : FileError)
  | notToml
  | schema (cause : SchemaError)

def SettingsError.message : SettingsError → String
  | .unreadable cause => "Failed to read config file: " ++ cause.message
  | .notToml => "Failed to parse config TOML: the text is not TOML"
  | .schema cause => "Failed to parse config TOML: " ++ cause.message

namespace Settings

def applyGroups : List (String × Toml) → Settings → Except SchemaError Settings
  | [], settings => .ok settings
  | (key, value) :: rest, settings =>
    match SettingGroup.all.find? (·.key = key) with
    | none => .error (.unknownGroup key)
    | some group => do
      let settings ← group.apply value settings
      applyGroups rest settings

def ofDocument (document : List (String × Toml)) : Except SchemaError Settings :=
  applyGroups document {}

def ofText (text : String) : Except SettingsError Settings :=
  match Toml.parse? text with
  | none => .error .notToml
  | some document => (ofDocument document).mapError .schema

end Settings

end StackTemplate
