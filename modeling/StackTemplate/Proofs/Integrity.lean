import StackTemplate.Proofs.Origin

namespace StackTemplate

namespace Template

def Declares (members : Entries Json) (heading name : String) : Prop :=
  ∃ entries, (heading, .object entries) ∈ members ∧ name ∈ Entries.keys entries

-- If the engine takes the node for a reference, it finds what the node names.
structure Intact (members : Entries Json) (node : Json) : Prop where
  ref : ∀ name, node = .object [("Ref", .string name)] →
    name ∈ ["AWS::AccountId", "AWS::Region", "AWS::StackName", "AWS::StackId", "AWS::Partition",
      "AWS::NoValue"] ∨ Declares members "Parameters" name ∨ Declares members "Resources" name
  getAtt : ∀ items, node = .object [("Fn::GetAtt", .array items)] →
    ∃ name rest, items = .string name :: rest ∧ Declares members "Resources" name
  choose : ∀ items, node = .object [("Fn::If", .array items)] →
    ∃ name rest, items = .string name :: rest ∧ Declares members "Conditions" name

end Template

namespace Declaration

-- The node is the writing of a literal: of a map among the values, or of all properties at once.
def SpellsOut (d : Declaration) (node : Json) : Prop :=
  ∃ entries, (d.Holds (.map entries) ∨ d.sec = .resource ∧ d.attributes = entries) ∧
    node = (Value.map entries).image.json

end Declaration

namespace Template
variable {members : Entries Json}

theorem mem_headings (sec : Section) : (sec, sec.key) ∈ headings := by cases sec <;> decide

theorem heading_key : ∀ heading ∈ headings, heading.2 = heading.1.key := by decide

-- The only keys that the engine reads a single member under.
def referenceKeys : List String := ["Ref", "Fn::GetAtt", "Fn::If"]

theorem Intact.of_keys {object : Entries Json}
    (other : ∀ key, Entries.keys object = [key] → key ∉ referenceKeys) :
    Intact members (.object object) := by
  have absent {key : String} {argument : Json} (reference : key ∈ referenceKeys) :
      Json.object object ≠ .object [(key, argument)] := by
    intro same
    cases same
    exact other key rfl reference
  exact ⟨fun _ same => absurd same (absent (by decide)),
    fun _ same => absurd same (absent (by decide)), fun _ same => absurd same (absent (by decide))⟩

theorem Intact.of_other {node : Json} (other : ∀ object, node ≠ .object object) :
    Intact members node :=
  ⟨fun _ same => absurd same (other _), fun _ same => absurd same (other _),
    fun _ same => absurd same (other _)⟩

theorem Intact.of_scaffold {node : Json} (plain : node.Scaffold) : Intact members node := by
  refine .of_other ?_
  rintro object rfl
  exact plain

theorem Intact.of_call {function : String} {argument : Json}
    (ref : ∀ name, function = "Ref" → argument = .string name →
      name ∈ Pseudo.all.map Pseudo.token ∨ Declares members "Parameters" name ∨
        Declares members "Resources" name)
    (getAtt : ∀ items, function = "Fn::GetAtt" → argument = .array items →
      ∃ name rest, items = .string name :: rest ∧ Declares members "Resources" name)
    (choose : ∀ items, function = "Fn::If" → argument = .array items →
      ∃ name rest, items = .string name :: rest ∧ Declares members "Conditions" name) :
    Intact members (call function argument) := by
  have parts {key : String} {value : Json} (same : call function argument = .object [(key, value)]) :
      function = key ∧ argument = value := by simpa [call] using same
  exact ⟨fun name same => ref name (parts same).1 (parts same).2,
    fun items same => getAtt items (parts same).1 (parts same).2,
    fun items same => choose items (parts same).1 (parts same).2⟩

end Template

namespace Document

theorem image_members {doc : Document} (sound : doc.Sound) {advisories : List Advisory}
    {options : TemplateOptions} {members : Entries Json}
    (written : (doc.image advisories).template options = .ok (.object members)) :
    members = ("AWSTemplateFormatVersion", .string doc.formatVersion)
      :: ("Description", .string doc.description)
      :: (Template.headings.filter fun heading =>
        ¬ (options.omitEmptySections = true ∧ doc.ofSection heading.1 = [])).map
          fun heading => (heading.2, .object (doc.sectionMembers heading.1)) := by
  rw [ResolvedDocument.template_eq, settle_ok] at written
  obtain ⟨_, same⟩ := written
  cases same
  rw [image_sectionsJson sound]
  rfl

variable {doc : Document} {advisories : List Advisory} {options : TemplateOptions}
  {members : Entries Json}

theorem section_content (sound : doc.Sound)
    (written : (doc.image advisories).template options = .ok (.object members)) (sec : Section)
    {content : Json} (member : (sec.key, content) ∈ members) :
    content = .object (doc.sectionMembers sec) := by
  rw [image_members sound written] at member
  exact Template.headings_content (fun sec => .object (doc.sectionMembers sec))
    (Template.mem_headings sec) member

theorem declares_iff (sound : doc.Sound)
    (written : (doc.image advisories).template options = .ok (.object members)) (sec : Section)
    {name : String} :
    Template.Declares members sec.key name ↔ ∃ d ∈ doc.declarations, d.id.text = name ∧ d.sec = sec := by
  have named : name ∈ Entries.keys (doc.sectionMembers sec) ↔
      ∃ d ∈ doc.declarations, d.id.text = name ∧ d.sec = sec := by
    rw [keys_sectionMembers]
    simp [ofSection, and_assoc, and_comm]
  rw [← named]
  constructor
  · rintro ⟨entries, member, known⟩
    cases section_content sound written sec member
    exact known
  · intro known
    refine ⟨doc.sectionMembers sec, ?_, known⟩
    -- A section that has an entry is never left out.
    have filled : doc.ofSection sec ≠ [] := by
      intro empty
      rw [keys_sectionMembers, empty] at known
      cases known
    rw [image_members sound written]
    refine List.mem_cons_of_mem _ (List.mem_cons_of_mem _ (List.mem_map.mpr ⟨(sec, sec.key), ?_, rfl⟩))
    exact List.mem_filter.mpr ⟨Template.mem_headings sec, by simp [filled]⟩

-- A name that is neither the engine's nor any declaration's cannot be found.
theorem dangling (sound : doc.Sound)
    (written : (doc.image advisories).template options = .ok (.object members)) {name : String}
    (foreign : name ∉ Pseudo.all.map Pseudo.token)
    (unknown : ∀ d ∈ doc.declarations, d.id.text ≠ name) :
    ¬ Template.Intact members (.object [("Ref", .string name)]) := by
  have absent (sec : Section) : ¬ Template.Declares members sec.key name := by
    intro declares
    obtain ⟨d, declared, named, _⟩ := (declares_iff sound written sec).mp declares
    exact unknown d declared named
  intro intact
  rcases intact.ref name rfl with token | parameter | resource
  · exact foreign token
  · exact absent .parameter parameter
  · exact absent .resource resource

theorem precedes_declares (sound : doc.Sound)
    (written : (doc.image advisories).template options = .ok (.object members))
    {sections : List Section} {target owner : LogicalId}
    (precedes : doc.Precedes sections target owner) :
    ∃ sec ∈ sections, Template.Declares members sec.key target.text := by
  obtain ⟨t, declared, rfl, allowed⟩ := precedes.declared
  exact ⟨t.sec, allowed, (declares_iff sound written _).mpr ⟨t, declared, rfl, rfl⟩⟩

end Document

namespace Value
variable {members : Entries Json}

-- An expression is found intact if the name in it is; a literal map need not be.
theorem expression_intact {v : Value} (expression : ∀ entries, v ≠ .map entries)
    (found : ∀ edge, v.edge? = some edge →
      ∃ sec ∈ edge.kind.allowed, Template.Declares members sec.key edge.target.text) :
    Template.Intact members v.image.json := by
  have other {key word : String} {goal : Prop} (apart : key ≠ word) : key = word → goal :=
    fun same => absurd same apart
  cases v with
  | string _ => exact .of_scaffold trivial
  | list _ => exact .of_scaffold trivial
  | number n => cases n <;> exact .of_other nofun
  | bool _ => exact .of_other nofun
  | map entries => exact absurd rfl (expression entries)
  | ref target =>
    refine .of_call ?_ (fun _ => other (by decide)) (fun _ => other (by decide))
    rintro name - same
    cases same
    obtain ⟨sec, allowed, declares⟩ := found _ rfl
    simp only [ReferenceKind.allowed, List.mem_cons, List.not_mem_nil, or_false] at allowed
    rcases allowed with rfl | rfl
    · exact .inr (.inl declares)
    · exact .inr (.inr declares)
  | pseudo parameter =>
    refine .of_call ?_ (fun _ => other (by decide)) (fun _ => other (by decide))
    rintro name - same
    cases same
    exact .inl (List.mem_map_of_mem (by cases parameter <;> decide))
  | getAtt target name =>
    refine .of_call (fun _ => other (by decide)) ?_ (fun _ => other (by decide))
    rintro items - same
    cases same
    obtain ⟨sec, allowed, declares⟩ := found _ rfl
    cases List.mem_singleton.mp allowed
    exact ⟨_, _, rfl, declares⟩
  | choose condition a b =>
    refine .of_call (fun _ => other (by decide)) (fun _ => other (by decide)) ?_
    rintro items - same
    cases same
    obtain ⟨sec, allowed, declares⟩ := found _ rfl
    cases List.mem_singleton.mp allowed
    exact ⟨_, _, rfl, declares⟩
  | join _ _ | equals _ _ | base64 _ =>
    exact .of_call (fun _ => other (by decide)) (fun _ => other (by decide))
      (fun _ => other (by decide))

end Value

namespace Declaration
variable {members : Entries Json}

-- The entries of parameters and resources have a type, those of outputs only keys of their own.
theorem entry_intact (doc : Document) {d : Declaration} (shape : d.misplaced? = none)
    (other : d.sec ≠ .condition) : Template.Intact members (d.image doc).json := by
  have sec : (d.image doc).sec = d.sec := rfl
  have typed {object : Entries Json} (type : "Type" ∈ Entries.keys object) :
      Template.Intact members (.object object) := by
    refine .of_keys fun key single => ?_
    rw [single, List.mem_singleton] at type
    exact type ▸ by decide
  rw [ResolvedDeclaration.json, sec]
  cases given : d.sec with
  | parameter => exact typed (Entries.mem_keys_insertAll.mpr (.inl (List.mem_singleton_self _)))
  | condition => exact absurd given other
  | resource =>
    refine typed ?_
    have keys := (d.image doc).keys_resourceMembers
    rw [ResolvedDeclaration.resourceMembers] at keys
    rw [keys, ResolvedDeclaration.resourceKeys]
    simp
  | output =>
    refine .of_keys fun key single => ?_
    have member : key ∈ Entries.keys (Entries.insertAll
        (Template.conditionMember (d.image doc).condition)
        (ResolvedValue.membersJson (d.image doc).attributes)) := single ▸ List.mem_singleton_self _
    have known : key ∈ ["Condition", "Value", "Description", "Export"] := by
      rcases Entries.mem_keys_insertAll.mp member with setting | valued
      · cases condition : (d.image doc).condition with
        | none => simp [Template.conditionMember, Entries.keys, condition] at setting
        | some name =>
          rw [condition] at setting
          exact List.mem_cons.mpr (.inl (List.mem_singleton.mp setting))
      · rw [ResolvedValue.keys_membersJson] at valued
        have keys : Entries.keys (d.image doc).attributes = Entries.keys d.attributes :=
          Value.keys_entryImages d.attributes
        exact List.mem_cons_of_mem _ ((misplaced_none.mp shape).output given key (keys ▸ valued))
    have apart : ∀ key ∈ ["Condition", "Value", "Description", "Export"],
        key ∉ Template.referenceKeys := by decide
    exact apart key known

theorem node_intact {doc : Document} {d : Declaration} (shape : d.misplaced? = none)
    (found : ∀ edge ∈ d.valueEdges,
      ∃ sec ∈ edge.kind.allowed, Template.Declares members sec.key edge.target.text)
    {node : Json} (writes : d.Writes doc node) :
    d.SpellsOut node ∨ Template.Intact members node := by
  cases writes with
  | entry whole empty =>
    right
    by_cases condition : d.sec = .condition
    · rw [empty condition]
      exact .of_keys nofun
    · exact whole ▸ d.entry_intact doc shape condition
  | properties resource object => exact .inl ⟨_, .inr ⟨resource, rfl⟩, object⟩
  | @value v holds written =>
    by_cases literal : ∃ entries, v = .map entries
    · obtain ⟨entries, rfl⟩ := literal
      exact .inl ⟨entries, .inl holds, written⟩
    · right
      rw [written]
      refine v.expression_intact (not_exists.mp literal) fun edge names => ?_
      exact found edge (mem_valueEdges.mpr ⟨v, holds, names⟩)
  | scaffold plain => exact .inr (.of_scaffold plain)

end Declaration

namespace Document

-- In an assembled template every node that looks like a reference names something that is there,
-- unless it spells out a literal; what is written for an expression always does.
theorem assemble_integrity {doc : Document} {options : AssemblyOptions} {assembly : Assembly}
    (reached : doc.Reachable) (assembles : doc.assemble options = .ok assembly) :
    ∃ resolved members, doc.resolve options.lint = .ok resolved ∧
      resolved.template options.template = .ok (.object members) ∧
      assembly = ⟨(Json.object members).text options.template.pretty, resolved.advisories⟩ ∧
      ∀ heading ∈ Template.headings, ∀ content, (heading.2, content) ∈ members →
        ∃ entries, content = .object entries ∧ ∀ name entry, (name, entry) ∈ entries →
          ∃ d ∈ doc.declarations, d.sec = heading.1 ∧ d.id.text = name ∧
            (∀ node, node.Within entry → d.SpellsOut node ∨ Template.Intact members node) ∧
            ∀ v, d.Holds v → (∀ es, v ≠ .map es) → Template.Intact members v.image.json := by
  have sound := reached.sound
  obtain ⟨resolved, tree, resolves, written, made⟩ := assemble_parts assembles
  obtain ⟨clean, advisories, _, rfl⟩ := (resolve_ok sound).mp resolves
  obtain ⟨members, rfl⟩ : ∃ members, tree = .object members := by
    rw [ResolvedDocument.template_eq, settle_ok] at written
    exact ⟨_, written.2.symm⟩
  refine ⟨_, members, resolves, written, made, ?_⟩
  rintro ⟨sec, heading⟩ listed content member
  obtain rfl : heading = sec.key := Template.heading_key (sec, heading) listed
  refine ⟨doc.sectionMembers sec, section_content sound written sec member, fun name entry inside => ?_⟩
  obtain ⟨d, selected, same⟩ := List.mem_map.mp inside
  cases same
  obtain ⟨declared, fitting⟩ := List.mem_filter.mp selected
  obtain ⟨shape, clear⟩ := violations_nil.mp clean d declared
  have found : ∀ edge ∈ d.valueEdges,
      ∃ sec ∈ edge.kind.allowed, Template.Declares members sec.key edge.target.text :=
    fun edge named => precedes_declares sound written
      (judge_none sound declared (clear edge (Declaration.mem_edges.mpr (.inl named))))
  refine ⟨d, declared, of_decide_eq_true fitting, rfl, ?_, ?_⟩
  · exact fun node nested => Declaration.node_intact shape found (d.entry_origin doc nested)
  · refine fun v holds expression => v.expression_intact expression fun edge names => ?_
    exact found edge (Declaration.mem_valueEdges.mpr ⟨v, holds, names⟩)

def linked : Document := run (.new "test")
  [ .add (.parameter "size" .string),
    .add (.condition "Large" (.equals (.ref "size") "xl")),
    .add (.resource "Role" "AWS::IAM::Role" []),
    .add (.resource "Server" "AWS::EC2::Instance"
      [("Profile", .choose "Large" (.getAtt "Role" "Arn") (.pseudo .noValue)),
        ("Tags", .list [.map [("Ref", "nobody")], .ref "Role"])]) ]

theorem linked_integrity : linked.Reachable ∧
    linked.assemble {} = .ok ⟨((linked.image []).json {}).text true, []⟩ ∧
    ∃ members, (linked.image []).template {} = .ok (.object members) ∧
      Template.Declares members "Conditions" "Large" ∧ Template.Declares members "Resources" "Role" ∧
      ¬ Template.Intact members (.object [("Ref", .string "nobody")]) ∧
      ∀ heading ∈ Template.headings, ∀ content, (heading.2, content) ∈ members →
        ∃ entries, content = .object entries ∧ ∀ name entry, (name, entry) ∈ entries →
          ∃ d ∈ linked.declarations, d.sec = heading.1 ∧ d.id.text = name ∧
            (∀ node, node.Within entry → d.SpellsOut node ∨ Template.Intact members node) ∧
            ∀ v, d.Holds v → (∀ es, v ≠ .map es) → Template.Intact members v.image.json := by
  have reached : linked.Reachable := (Reachable.empty "test" _).run _
  have resolves : linked.resolve {} = .ok (linked.image []) :=
    (resolve_ok reached.sound).mpr ⟨by decide, [], by decide, rfl⟩
  have writable : ∀ d ∈ linked.declarations, d.Writable := by decide
  have assembles := assemble_eq {} writable resolves
  obtain ⟨resolved, members, again, written, _, intact⟩ := assemble_integrity reached assembles
  rw [resolves] at again
  cases again
  have declares (sec : Section) {name : String}
      (declared : ∃ d ∈ linked.declarations, d.id.text = name ∧ d.sec = sec) :
      Template.Declares members sec.key name := (declares_iff reached.sound written sec).mpr declared
  exact ⟨reached, assembles, members, written, declares .condition (by decide),
    declares .resource (by decide), dangling reached.sound written (by decide) (by decide), intact⟩

-- A bucket whose name is a literal of the form of a reference.
def lookalike : Declaration := .resource "Bucket" "AWS::S3::Bucket" [("Name", .map [("Ref", "nobody")])]

def masked : Document := run (.new "test") [.add (.builtResource lookalike)]

-- The engine looks for a declaration where a literal map was meant.
theorem masked_dangling :
    ¬ ∀ (doc : Document) (options : AssemblyOptions) (resolved : ResolvedDocument)
        (members : Entries Json), doc.Reachable → doc.resolve options.lint = .ok resolved →
        resolved.template options.template = .ok (.object members) →
        ∀ heading ∈ Template.headings, ∀ entries, (heading.2, .object entries) ∈ members →
          ∀ name entry, (name, entry) ∈ entries → ∀ node, node.Within entry →
            Template.Intact members node := by
  intro intact
  have reached : masked.Reachable := (Reachable.empty "test" _).run _
  have resolves : masked.resolve {} = .ok (masked.image []) :=
    (resolve_ok reached.sound).mpr ⟨by decide, [], by decide, rfl⟩
  obtain ⟨members, written⟩ : ∃ members, (masked.image []).template {} = .ok (.object members) := by
    rw [ResolvedDocument.template_eq]
    exact ⟨_, rfl⟩
  obtain ⟨entries, member, -⟩ : Template.Declares members "Resources" "Bucket" :=
    (declares_iff reached.sound written .resource).mpr (by decide)
  cases section_content reached.sound written .resource member
  have listed : ("Bucket", (lookalike.image masked).json) ∈ masked.sectionMembers .resource :=
    List.mem_singleton_self _
  have nested : (Json.object [("Ref", .string "nobody")]).Within (lookalike.image masked).json :=
    .member (List.mem_cons_of_mem _ (List.mem_singleton_self ("Properties", _)))
      (.member (List.mem_singleton_self ("Name", _)) .here)
  exact dangling reached.sound written (by decide) (by decide)
    (intact masked {} _ members reached resolves written (.resource, "Resources") (by decide) _ member
      "Bucket" _ listed _ nested)

end Document

end StackTemplate
