import Mathlib
import StackTemplate.Proofs.Registry
import StackTemplate.Proofs.Toml.Reading
import StackTemplate.Settings.Schema

namespace StackTemplate

namespace Setting

def Fits : Setting → Toml → Prop
  | .pretty, value | .omitEmptySections, value => ∃ flag, value = .boolean flag
  | .unusedParameters, value | .unusedConditions, value =>
    ∃ level : LintLevel, value = .string level.word
  | .vpcBlock, value | .gatewayBlock, value | .classification, value => ∃ text, value = .string text
  | .subnetBlocks, value => ∃ texts : List String, value = .array (texts.map .string)

-- What the setting is in the settings, as a document would give it.
def written (settings : Settings) : Setting → Toml
  | .pretty => .boolean settings.template.pretty
  | .omitEmptySections => .boolean settings.template.omitEmptySections
  | .unusedParameters => .string settings.lint.unusedParameters.word
  | .unusedConditions => .string settings.lint.unusedConditions.word
  | .vpcBlock => .string settings.addressing.vpcBlock
  | .gatewayBlock => .string settings.addressing.gatewayBlock
  | .subnetBlocks => .array (settings.addressing.subnetBlocks.map .string)
  | .classification => .string settings.tagging.classification

-- A lint level is not given as a table.
def Plain (setting : Setting) (value : Toml) : Prop :=
  setting ∈ SettingGroup.lint.members → ∀ entries, value ≠ .table entries

theorem key_injective {one other : Setting} (same : one.key = other.key) : one = other := by
  cases one <;> cases other <;> first | rfl | exact absurd same (by decide)

section
variable {value : Toml}

theorem readBoolean_ok {flag : Bool} (read : readBoolean value = .ok flag) :
    value = .boolean flag := by
  cases value <;> cases read
  rfl

theorem readString_ok {text : String} (read : readString value = .ok text) :
    value = .string text := by
  cases value <;> cases read
  rfl

theorem mapM_readString_ok {items : List Toml} {texts : List String}
    (read : items.mapM readString = .ok texts) : items = texts.map .string := by
  induction items generalizing texts with
  | nil =>
    cases read
    rfl
  | cons item items ih =>
    rw [List.mapM_cons] at read
    obtain ⟨text, first, read⟩ := bind_ok.mp read
    obtain ⟨others, later, done⟩ := bind_ok.mp read
    cases done
    rw [List.map_cons, readString_ok first, ih later]

theorem mapM_readString (texts : List String) :
    (texts.map Toml.string).mapM readString = .ok texts := by
  induction texts with
  | nil => rfl
  | cons text texts ih =>
    rw [List.map_cons, List.mapM_cons, ih]
    rfl

-- An array of headed tables has one, so it is no array of texts.
theorem readStrings_ok {texts : List String} (regular : value.Regular)
    (read : readStrings value = .ok texts) : value = .array (texts.map .string) := by
  cases regular with
  | array _ => rw [mapM_readString_ok read]
  | @tables rows filled headed each =>
    obtain ⟨row, member⟩ := List.exists_mem_of_ne_nil rows filled
    obtain ⟨entries, rfl⟩ := headed row member
    rw [mapM_readString_ok read] at member
    obtain ⟨_, _, other⟩ := List.mem_map.mp member
    cases other
  | _ => cases read

theorem levelOfWord_ok {word : String} {level : LintLevel} (read : levelOfWord word = .ok level) :
    word = level.word := by
  unfold levelOfWord at read
  split at read
  · rename_i found
    cases read
    have named := List.find?_some found
    exact (of_decide_eq_true named).symm
  · cases read

theorem levelOfWord_word (level : LintLevel) : levelOfWord level.word = .ok level := by
  cases level <;> rfl

theorem readLevel_ok {level : LintLevel} (plain : ∀ entries, value ≠ .table entries)
    (read : readLevel value = .ok level) : value = .string level.word := by
  cases value with
  | string word => rw [levelOfWord_ok read]
  | table entries => exact absurd rfl (plain entries)
  | _ => cases read

end

variable {setting : Setting} {value : Toml} {before after : Settings}

theorem apply_fits (fits : setting.Fits value) (settings : Settings) :
    ∃ after, setting.apply value settings = .ok after := by
  cases setting with
  | pretty | omitEmptySections =>
    obtain ⟨flag, rfl⟩ := fits
    exact ⟨_, rfl⟩
  | unusedParameters | unusedConditions =>
    obtain ⟨level, rfl⟩ := fits
    simp only [apply, readLevel, levelOfWord_word]
    exact ⟨_, rfl⟩
  | vpcBlock | gatewayBlock | classification =>
    obtain ⟨text, rfl⟩ := fits
    exact ⟨_, rfl⟩
  | subnetBlocks =>
    obtain ⟨texts, rfl⟩ := fits
    simp only [apply, readStrings, Toml.items?, mapM_readString]
    exact ⟨_, rfl⟩

theorem apply_taken (regular : value.Regular) (plain : setting.Plain value)
    (done : setting.apply value before = .ok after) :
    setting.Fits value ∧ setting.written after = value := by
  cases setting with
  | pretty | omitEmptySections =>
    obtain ⟨flag, read, done⟩ := bind_ok.mp done
    cases done
    cases readBoolean_ok read
    exact ⟨⟨flag, rfl⟩, rfl⟩
  | unusedParameters | unusedConditions =>
    obtain ⟨level, read, done⟩ := bind_ok.mp done
    cases done
    cases readLevel_ok (plain (by decide)) read
    exact ⟨⟨level, rfl⟩, rfl⟩
  | vpcBlock | gatewayBlock | classification =>
    obtain ⟨text, read, done⟩ := bind_ok.mp done
    cases done
    cases readString_ok read
    exact ⟨⟨text, rfl⟩, rfl⟩
  | subnetBlocks =>
    obtain ⟨texts, read, done⟩ := bind_ok.mp done
    cases done
    cases readStrings_ok regular read
    exact ⟨⟨texts, rfl⟩, rfl⟩

theorem apply_kept {other : Setting} (apart : other ≠ setting)
    (done : setting.apply value before = .ok after) : other.written after = other.written before := by
  cases setting
  all_goals
    obtain ⟨_, _, done⟩ := bind_ok.mp done
    cases done
    cases other <;> first | rfl | exact absurd rfl apart

end Setting

-- From one state of the settings to the next, all that is given is set and the rest stays.
structure Settings.Sets (given : Setting → Toml → Prop) (before after : Settings) : Prop where
  taken : ∀ setting value, given setting value → setting.written after = value
  kept : ∀ setting, (∀ value, ¬ given setting value) → setting.written after = setting.written before

namespace Settings
variable {first second given : Setting → Toml → Prop} {before middle after : Settings}

theorem Sets.nothing (never : ∀ setting value, ¬ given setting value) : Sets given before before :=
  ⟨fun setting value here => absurd here (never setting value), fun _ _ => rfl⟩

-- What is set first stays as long as it is not set again.
theorem Sets.followed (once : Sets first before middle) (then_set : Sets second middle after)
    (apart : ∀ setting value other, first setting value → ¬ second setting other)
    (whole : ∀ setting value, given setting value ↔ first setting value ∨ second setting value) :
    Sets given before after := by
  constructor
  · intro setting value here
    cases (whole setting value).mp here with
    | inl earlier =>
      rw [then_set.kept setting fun other => apart setting value other earlier]
      exact once.taken setting value earlier
    | inr later => exact then_set.taken setting value later
  · intro setting never
    rw [then_set.kept setting fun value later => never value ((whole setting value).mpr (.inr later)),
      once.kept setting fun value earlier => never value ((whole setting value).mpr (.inl earlier))]

end Settings

theorem Setting.apply_sets {setting : Setting} {value : Toml} {before after : Settings}
    (taken : setting.written after = value) (done : setting.apply value before = .ok after) :
    Settings.Sets (fun one v => one = setting ∧ v = value) before after := by
  constructor
  · rintro _ _ ⟨rfl, rfl⟩
    exact taken
  · intro one other
    exact apply_kept (fun same => other value ⟨same, rfl⟩) done

namespace SettingGroup

def Gives (group : SettingGroup) (entries : List (String × Toml)) (setting : Setting)
    (value : Toml) : Prop :=
  setting ∈ group.members ∧ (setting.key, value) ∈ entries

def Fits (group : SettingGroup) (entries : List (String × Toml)) : Prop :=
  ∀ entry ∈ entries, ∃ setting ∈ group.members, entry.1 = setting.key ∧ setting.Fits entry.2

variable {group : SettingGroup} {entries : List (String × Toml)} {before after : Settings}

theorem key_injective {one other : SettingGroup} (same : one.key = other.key) : one = other := by
  cases one <;> cases other <;> first | rfl | exact absurd same (by decide)

theorem member_unique {one other : SettingGroup} {setting : Setting} (here : setting ∈ one.members)
    (there : setting ∈ other.members) : one = other := by
  revert here there
  cases one <;> cases other <;> cases setting <;> decide

theorem find?_member {setting : Setting} (member : setting ∈ group.members) :
    group.members.find? (·.key = setting.key) = some setting := by
  revert member
  cases group <;> cases setting <;> decide

theorem member_of_find? {key : String} {setting : Setting}
    (found : group.members.find? (·.key = key) = some setting) :
    setting ∈ group.members ∧ setting.key = key := by
  have named := List.find?_some found
  exact ⟨List.mem_of_find?_eq_some found, of_decide_eq_true named⟩

theorem applyTable_fits (fits : group.Fits entries) (settings : Settings) :
    ∃ after, group.applyTable entries settings = .ok after := by
  induction entries generalizing settings with
  | nil => exact ⟨settings, rfl⟩
  | cons entry rest ih =>
    obtain ⟨key, value⟩ := entry
    obtain ⟨⟨setting, member, rfl, kind⟩, others⟩ := List.forall_mem_cons.mp fits
    obtain ⟨next, applied⟩ := setting.apply_fits kind settings
    obtain ⟨after, done⟩ := ih others next
    refine ⟨after, ?_⟩
    rw [applyTable, find?_member member]
    dsimp only
    rw [applied]
    exact done

theorem gives_cons {setting : Setting} (member : setting ∈ group.members) (value : Toml)
    (rest : List (String × Toml)) (one : Setting) (v : Toml) :
    group.Gives ((setting.key, value) :: rest) one v ↔
      (one = setting ∧ v = value) ∨ group.Gives rest one v := by
  constructor
  · rintro ⟨within, listed⟩
    cases List.mem_cons.mp listed with
    | inl same =>
      obtain ⟨named, rfl⟩ := Prod.mk.inj same
      exact .inl ⟨Setting.key_injective named, rfl⟩
    | inr later => exact .inr ⟨within, later⟩
  · rintro (⟨rfl, rfl⟩ | ⟨within, later⟩)
    · exact ⟨member, List.mem_cons_self⟩
    · exact ⟨within, List.mem_cons_of_mem _ later⟩

-- One key after the other is set. None comes twice, so each stays as it was set.
theorem applyTable_ok (regular : (Toml.table entries).Regular)
    (plain : ∀ setting value, group.Gives entries setting value → setting.Plain value)
    (done : group.applyTable entries before = .ok after) :
    group.Fits entries ∧ Settings.Sets (group.Gives entries) before after := by
  induction entries generalizing before with
  | nil =>
    cases done
    exact ⟨List.forall_mem_nil _, .nothing fun _ _ given => absurd given.2 List.not_mem_nil⟩
  | cons entry rest ih =>
    obtain ⟨key, value⟩ := entry
    obtain ⟨distinct, each⟩ := Toml.regular_table.mp regular
    obtain ⟨fresh, later⟩ := List.nodup_cons.mp distinct
    obtain ⟨first, others⟩ := List.forall_mem_cons.mp each
    rw [applyTable] at done
    split at done
    · cases done
    · rename_i setting found
      obtain ⟨member, rfl⟩ := member_of_find? found
      obtain ⟨middle, applied, left⟩ := bind_ok.mp done
      have parts := gives_cons member value rest
      have proper : setting.Plain value := plain _ _ ((parts _ _).mpr (.inl ⟨rfl, rfl⟩))
      obtain ⟨kind, taken⟩ := Setting.apply_taken first proper applied
      obtain ⟨kinds, sets⟩ := ih (.table later others)
        (fun one v given => plain one v ((parts one v).mpr (.inr given))) left
      refine ⟨List.forall_mem_cons.mpr ⟨⟨setting, member, rfl, kind⟩, kinds⟩,
        (Setting.apply_sets taken applied).followed sets ?_ parts⟩
      rintro _ _ other ⟨rfl, rfl⟩ again
      exact fresh (List.mem_map_of_mem (f := (·.1)) again.2)

theorem find?_key (group : SettingGroup) : all.find? (·.key = group.key) = some group := by
  cases group <;> decide

theorem key_of_find? {key : String} (found : all.find? (·.key = key) = some group) :
    group.key = key := by
  have named := List.find?_some found
  exact of_decide_eq_true named

-- What is neither a table nor an array is not taken for a group.
theorem apply_table {value : Toml} (single : value.items? = none)
    (done : group.apply value before = .ok after) :
    ∃ entries, value = .table entries ∧ group.applyTable entries before = .ok after := by
  cases value with
  | table entries => exact ⟨entries, rfl, done⟩
  | array items => cases single
  | tables rows => cases single
  | _ => cases done

end SettingGroup

namespace Settings
variable {document : List (String × Toml)} {before after : Settings}

def Gives (document : List (String × Toml)) (setting : Setting) (value : Toml) : Prop :=
  ∃ group entries, (SettingGroup.key group, Toml.table entries) ∈ document ∧
    group.Gives entries setting value

def Fits (document : List (String × Toml)) : Prop :=
  ∀ entry ∈ document, ∃ group entries,
    entry = (SettingGroup.key group, Toml.table entries) ∧ group.Fits entries

theorem applyGroups_fits (fits : Fits document) (settings : Settings) :
    ∃ after, applyGroups document settings = .ok after := by
  induction document generalizing settings with
  | nil => exact ⟨settings, rfl⟩
  | cons entry rest ih =>
    obtain ⟨⟨group, entries, rfl, kinds⟩, others⟩ := List.forall_mem_cons.mp fits
    obtain ⟨next, applied⟩ := SettingGroup.applyTable_fits kinds settings
    obtain ⟨after, done⟩ := ih others next
    refine ⟨after, ?_⟩
    rw [applyGroups, SettingGroup.find?_key]
    dsimp only
    rw [SettingGroup.apply, applied]
    exact done

theorem gives_cons (group : SettingGroup) (entries rest : List (String × Toml)) (one : Setting)
    (v : Toml) : Gives ((group.key, .table entries) :: rest) one v ↔
      group.Gives entries one v ∨ Gives rest one v := by
  constructor
  · rintro ⟨other, inner, listed, given⟩
    cases List.mem_cons.mp listed with
    | inl same =>
      obtain ⟨named, tables⟩ := Prod.mk.inj same
      cases SettingGroup.key_injective named
      cases tables
      exact .inl given
    | inr later => exact .inr ⟨other, inner, later, given⟩
  · rintro (given | ⟨other, inner, later, given⟩)
    · exact ⟨group, entries, List.mem_cons_self, given⟩
    · exact ⟨other, inner, List.mem_cons_of_mem _ later, given⟩

-- One group after the other is set, and no setting is in two of them.
theorem applyGroups_ok (regular : (Toml.table document).Regular)
    (single : ∀ group value, (SettingGroup.key group, value) ∈ document → value.items? = none)
    (plain : ∀ setting value, Gives document setting value → setting.Plain value)
    (done : applyGroups document before = .ok after) :
    Fits document ∧ Sets (Gives document) before after := by
  induction document generalizing before with
  | nil =>
    cases done
    refine ⟨List.forall_mem_nil _, .nothing ?_⟩
    rintro _ _ ⟨_, _, inside, _⟩
    exact absurd inside List.not_mem_nil
  | cons entry rest ih =>
    obtain ⟨key, value⟩ := entry
    obtain ⟨distinct, each⟩ := Toml.regular_table.mp regular
    obtain ⟨fresh, later⟩ := List.nodup_cons.mp distinct
    obtain ⟨first, others⟩ := List.forall_mem_cons.mp each
    rw [applyGroups] at done
    split at done
    · cases done
    · rename_i group found
      cases SettingGroup.key_of_find? found
      obtain ⟨middle, applied, left⟩ := bind_ok.mp done
      obtain ⟨entries, rfl, applied⟩ :=
        SettingGroup.apply_table (single group value List.mem_cons_self) applied
      have parts := gives_cons group entries rest
      obtain ⟨kinds, sets⟩ := SettingGroup.applyTable_ok first
        (fun one v given => plain one v ((parts one v).mpr (.inl given))) applied
      obtain ⟨rest_fits, rest_sets⟩ := ih (.table later others)
        (fun one v inside => single one v (List.mem_cons_of_mem _ inside))
        (fun one v given => plain one v ((parts one v).mpr (.inr given))) left
      refine ⟨List.forall_mem_cons.mpr ⟨⟨group, entries, rfl, kinds⟩, rest_fits⟩,
        sets.followed rest_sets ?_ parts⟩
      rintro one v other here ⟨again, more, inside, given⟩
      cases SettingGroup.member_unique here.1 given.1
      exact fresh (List.mem_map_of_mem (f := (·.1)) inside)

theorem ofText_ok {text : String} (parsed : Toml.parse? text = some document) {settings : Settings} :
    ofText text = .ok settings ↔ applyGroups document {} = .ok settings := by
  rw [ofText, parsed]
  exact mapError_ok

-- A text is taken exactly if nothing but settings is given in it, each as a value of its kind, and
-- then every setting is what is given for it, if anything is, and the default otherwise.
theorem ofText_given {text : String} (parsed : Toml.parse? text = some document)
    (single : ∀ group value, (SettingGroup.key group, value) ∈ document → value.items? = none)
    (plain : ∀ setting value, Gives document setting value → setting.Plain value) :
    ((∃ settings, ofText text = .ok settings) ↔ Fits document) ∧
    ∀ settings, ofText text = .ok settings → ∀ setting : Setting,
      (∀ value, Gives document setting value → setting.written settings = value) ∧
      ((∀ value, ¬ Gives document setting value) →
        setting.written settings = setting.written {}) := by
  have regular := Toml.parse?_regular parsed
  simp only [ofText_ok parsed]
  refine ⟨⟨?_, fun fits => applyGroups_fits fits {}⟩, ?_⟩
  · rintro ⟨settings, done⟩
    exact (applyGroups_ok regular single plain done).1
  · intro settings done setting
    have sets := (applyGroups_ok regular single plain done).2
    exact ⟨sets.taken setting, sets.kept setting⟩

def deniedLint : List (String × Toml) := [("unused_parameters", .string "deny")]

def deniedNetwork : List (String × Toml) :=
  [("subnet_cidr_blocks", .array [.string "10.0.0.0/24"])]

def deniedText : String :=
  "lint.unused_parameters = \"deny\"\n[network]\nsubnet_cidr_blocks = [\"10.0.0.0/24\"]\n"

def deniedDocument : List (String × Toml) :=
  [("lint", .table deniedLint), ("network", .table deniedNetwork)]

theorem denied_given : ∃ settings, ofText deniedText = .ok settings ∧
    Setting.unusedParameters.written settings = .string "deny" ∧
    Setting.subnetBlocks.written settings = .array [.string "10.0.0.0/24"] ∧
    Setting.pretty.written settings = Setting.pretty.written {} := by
  have parsed : Toml.parse? deniedText = some deniedDocument := by cbv
  have listed (key : String) (value : Toml) (inside : (key, value) ∈ deniedDocument) :
      (key = "lint" ∧ value = .table deniedLint) ∨
        (key = "network" ∧ value = .table deniedNetwork) := by
    simpa [deniedDocument] using inside
  have single : ∀ group value, (SettingGroup.key group, value) ∈ deniedDocument →
      value.items? = none := by
    intro group value inside
    obtain ⟨_, rfl⟩ | ⟨_, rfl⟩ := listed _ _ inside <;> rfl
  have plain : ∀ setting value, Gives deniedDocument setting value → setting.Plain value := by
    rintro setting value ⟨group, entries, inside, _, within⟩ _ inner rfl
    obtain ⟨_, same⟩ | ⟨_, same⟩ := listed _ _ inside <;> cases same
    · simp [deniedLint] at within
    · simp [deniedNetwork] at within
  have fits : Fits deniedDocument := by
    refine List.forall_mem_cons.mpr ⟨⟨.lint, deniedLint, rfl, ?_⟩,
      List.forall_mem_singleton.mpr ⟨.network, deniedNetwork, rfl, ?_⟩⟩
    · exact List.forall_mem_singleton.mpr ⟨.unusedParameters, by decide, rfl, .deny, rfl⟩
    · exact List.forall_mem_singleton.mpr ⟨.subnetBlocks, by decide, rfl, ["10.0.0.0/24"], rfl⟩
  have denied : Gives deniedDocument .unusedParameters (.string "deny") :=
    ⟨.lint, deniedLint, List.mem_cons_self, by decide, List.mem_cons_self⟩
  have blocks : Gives deniedDocument .subnetBlocks (.array [.string "10.0.0.0/24"]) :=
    ⟨.network, deniedNetwork, List.mem_cons_of_mem _ List.mem_cons_self, by decide,
      List.mem_cons_self⟩
  have unset (value : Toml) : ¬ Gives deniedDocument .pretty value := by
    rintro ⟨group, entries, inside, _, within⟩
    obtain ⟨_, same⟩ | ⟨_, same⟩ := listed _ _ inside <;> cases same
    · simp [deniedLint, Setting.key] at within
    · simp [deniedNetwork, Setting.key] at within
  obtain ⟨accepts, gives⟩ := ofText_given parsed single plain
  obtain ⟨settings, done⟩ := accepts.mpr fits
  exact ⟨settings, done, (gives settings done .unusedParameters).1 _ denied,
    (gives settings done .subnetBlocks).1 _ blocks, (gives settings done .pretty).2 unset⟩

end Settings

end StackTemplate
