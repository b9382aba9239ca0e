import StackTemplate.Proofs.Idle
import StackTemplate.Proofs.Integrity

namespace StackTemplate

theorem Value.entryImages_eq (vs : List (String × Value)) :
    entryImages vs = vs.map fun entry => (entry.1, entry.2.image) := by
  induction vs with
  | nil => rfl
  | cons entry vs ih => rw [entryImages, ih, List.map_cons]

namespace ResolvedValue

theorem membersJson_eq (vs : List (String × ResolvedValue)) :
    membersJson vs = vs.map fun entry => (entry.1, entry.2.json) := by
  induction vs with
  | nil => rfl
  | cons entry vs ih => rw [membersJson, ih, List.map_cons]

theorem memberFaults_eq (path : Path) (vs : List (String × ResolvedValue)) :
    memberFaults path vs = vs.flatMap fun entry => entry.2.faults (path.member entry.1) := by
  induction vs with
  | nil => rfl
  | cons entry vs ih => rw [memberFaults, ih, List.flatMap_cons]

end ResolvedValue

namespace Template

def NodeOf (doc : Document) (d : Declaration) (v : Value) (node : ResolvedValue) : Prop :=
  ∃ position uses, doc.declarations[position]? = some d ∧
    Scope.value ⟨doc, d, position⟩ v = .ok (node, uses)

-- Every attribute stands under its key as it is written, and the type is the parameter's own unless
-- an attribute of that name says another.
structure ParameterEntry (doc : Document) (d : Declaration) (entry : Entries Json) : Prop where
  keys : ∀ key, key ∈ Entries.keys entry ↔ key = "Type" ∨ key ∈ Entries.keys d.attributes
  attributes : ∀ key v, Entries.find? (Entries.ofList d.attributes) key = some v →
    ∃ node tree, NodeOf doc d v node ∧
      value (Path.member ⟨.parameter, d.id, []⟩ key) node = .ok tree ∧
      Entries.find? entry key = some tree
  type : Entries.find? entry "Type" = some (.string d.kind) ↔
    ∀ v, Entries.find? (Entries.ofList d.attributes) "Type" = some v → v = .string d.kind

end Template

namespace Declaration

def parameterMembers (d : Declaration) : Entries Json :=
  Entries.insertAll [("Type", .string d.kind)]
    (d.attributes.map fun entry => (entry.1, entry.2.image.json))

theorem image_parameter (doc : Document) {d : Declaration} (parameter : d.sec = .parameter) :
    (d.image doc).json = .object d.parameterMembers := by
  have sec : (d.image doc).sec = .parameter := parameter
  have members : ResolvedValue.membersJson (d.image doc).attributes =
      d.attributes.map fun entry => (entry.1, entry.2.image.json) := by
    rw [ResolvedValue.membersJson_eq, image, Value.entryImages_eq, List.map_map]
    rfl
  rw [ResolvedDeclaration.json, sec, parameterMembers, ← members]
  rfl

theorem find?_parameterMembers (d : Declaration) (key : String) :
    Entries.find? d.parameterMembers key =
      ((Entries.find? (Entries.ofList d.attributes) key).map (·.image.json)).or
        (if "Type" = key then some (.string d.kind) else none) := by
  have written := Entries.find?_map (fun v : Value => v.image.json) d.attributes.reverse key
  rw [parameterMembers, Entries.find?_insertAll, ← List.map_reverse, written, Entries.find?_ofList]
  rfl

theorem keys_parameterMembers (d : Declaration) {key : String} :
    key ∈ Entries.keys d.parameterMembers ↔ key = "Type" ∨ key ∈ Entries.keys d.attributes := by
  have keys : Entries.keys (d.attributes.map fun entry => (entry.1, entry.2.image.json)) =
      Entries.keys d.attributes := by
    rw [Entries.keys, List.map_map]
    rfl
  rw [parameterMembers, Entries.mem_keys_insertAll, keys]
  exact or_congr_left List.mem_singleton

-- Nothing but a string is written as a string.
theorem image_string {v : Value} {text : String} (written : v.image.json = .string text) :
    v = .string text := by
  cases v with
  | string _ =>
    cases written
    rfl
  | number n => cases n <;> cases written
  | _ => cases written

theorem parameter_type (d : Declaration) :
    Entries.find? d.parameterMembers "Type" = some (.string d.kind) ↔
      ∀ v, Entries.find? (Entries.ofList d.attributes) "Type" = some v → v = .string d.kind := by
  rw [find?_parameterMembers]
  cases found : Entries.find? (Entries.ofList d.attributes) "Type" with
  | none => simp
  | some v =>
    constructor
    · intro same other given
      cases given
      exact image_string (by simpa using same)
    · intro only
      rw [only v rfl]
      rfl

theorem attribute_clear {doc : Document} {d : Declaration} (parameter : d.sec = .parameter)
    (clear : (d.image doc).faults = []) {key : String} {v : Value}
    (member : (key, v) ∈ d.attributes) :
    v.image.faults (Path.member ⟨.parameter, d.id, []⟩ key) = [] := by
  have sec : (d.image doc).sec = .parameter := parameter
  unfold ResolvedDeclaration.faults ResolvedDeclaration.place at clear
  rw [sec] at clear
  change ResolvedValue.memberFaults ⟨.parameter, d.id, []⟩
    (Value.entryImages d.attributes) = [] at clear
  rw [ResolvedValue.memberFaults_eq, Value.entryImages_eq] at clear
  exact List.flatMap_eq_nil_iff.mp clear (key, v.image) (List.mem_map_of_mem member)

end Declaration

namespace Document

theorem image_nodeOf {doc : Document} (sound : doc.Sound) {d : Declaration}
    (declared : d ∈ doc.declarations) {v : Value}
    (clear : ∀ edge ∈ v.edges, doc.judge d.id edge = none) : Template.NodeOf doc d v v.image := by
  obtain ⟨position, here⟩ := List.mem_iff_getElem?.mp declared
  have stands : Scope.Stands ⟨doc, d, position⟩ := ⟨sound, here⟩
  have done := Scope.value_eq stands v
  rw [Scope.firstWrong, List.findSome?_eq_none_iff.mpr clear, settle_none] at done
  exact ⟨position, _, here, done⟩

theorem image_parameterEntry {doc : Document} (sound : doc.Sound) {d : Declaration}
    (declared : d ∈ doc.declarations) (parameter : d.sec = .parameter)
    (named : ∀ edge ∈ d.edges, doc.judge d.id edge = none) (clear : (d.image doc).faults = []) :
    Template.ParameterEntry doc d d.parameterMembers := by
  refine ⟨fun key => d.keys_parameterMembers, ?_, d.parameter_type⟩
  intro key v found
  have member : (key, v) ∈ d.attributes := by
    rw [Entries.find?_ofList] at found
    exact List.mem_reverse.mp (Entries.mem_of_find? found)
  have edges : ∀ edge ∈ v.edges, doc.judge d.id edge = none := by
    intro edge inside
    refine named edge (Declaration.mem_edges.mpr (.inl (List.mem_append_left _ ?_)))
    rw [Value.entryEdges_eq]
    exact List.mem_flatMap_of_mem member inside
  refine ⟨v.image, v.image.json, image_nodeOf sound declared edges, ?_, ?_⟩
  · rw [Template.value_eq, Declaration.attribute_clear parameter clear member]
    rfl
  · rw [d.find?_parameterMembers, found]
    rfl

end Document

-- What a parameter can be refused for. Its attributes are not asked about.
theorem Declaration.misplaced_parameter {d : Declaration} {setting : String}
    (parameter : d.sec = .parameter) (refused : d.misplaced? = some setting) :
    setting ∈ ["DependsOn", "UpdatePolicy", "DeletionPolicy", "Condition"] := by
  simp only [misplaced?, parameter] at refused
  grind

namespace Document

theorem judge_supported {doc : Document} {owner : LogicalId} {edge : Edge} {id : LogicalId}
    {sec : Section} {setting : String} :
    doc.judge owner edge ≠ some (.unsupportedAttribute id sec setting) := by
  unfold judge
  grind

-- A setting is refused where it is, and for nothing else.
theorem resolve_unsupported {doc : Document} (sound : doc.Sound) {options : LintOptions}
    {id : LogicalId} {sec : Section} {setting : String}
    (refused : doc.resolve options = .error (.unsupportedAttribute id sec setting)) :
    ∃ d ∈ doc.declarations, d.id = id ∧ d.sec = sec ∧ d.misplaced? = some setting := by
  cases resolve_error sound refused with
  | inl violated =>
    obtain ⟨d, declared, wrong⟩ := mem_violations.mp violated
    cases wrong with
    | inl shape =>
      obtain ⟨name, placed, same⟩ := shape
      cases same
      exact ⟨d, declared, rfl, rfl, placed⟩
    | inr named =>
      obtain ⟨edge, _, judged⟩ := named
      exact absurd judged judge_supported
  | inr unused =>
    obtain ⟨_, _, other⟩ := unused
    cases other

-- In an assembled template a parameter has the type that it was declared with exactly if none of
-- its attributes is called as the type and says another; all attributes are there in any case. No
-- parameter is refused for an attribute.
theorem assemble_parameters {doc : Document} (reached : doc.Reachable) :
    (∀ options assembly, doc.assemble options = .ok assembly →
      ∃ resolved members, doc.resolve options.lint = .ok resolved ∧
        resolved.template options.template = .ok (.object members) ∧
        assembly = ⟨(Json.object members).text options.template.pretty, resolved.advisories⟩ ∧
        ∀ d ∈ doc.declarations, d.sec = .parameter →
          ∃ entries entry, ("Parameters", .object entries) ∈ members ∧
            (d.id.text, .object entry) ∈ entries ∧ Template.ParameterEntry doc d entry) ∧
    ∀ options id setting,
      doc.resolve options = .error (.unsupportedAttribute id .parameter setting) →
        setting ∈ ["DependsOn", "UpdatePolicy", "DeletionPolicy", "Condition"] := by
  have sound := reached.sound
  refine ⟨fun options assembly assembles => ?_, fun options id setting refused => ?_⟩
  · obtain ⟨resolved, tree, resolves, written, made⟩ := assemble_parts assembles
    obtain ⟨clean, advisories, _, rfl⟩ := (resolve_ok sound).mp resolves
    have settled := written
    rw [ResolvedDocument.template_eq, settle_ok, List.head?_eq_none_iff] at settled
    obtain ⟨clear, rfl⟩ := settled
    refine ⟨_, _, resolves, written, made, fun d declared parameter => ?_⟩
    obtain ⟨entries, member, known⟩ : Template.Declares _ "Parameters" d.id.text :=
      (declares_iff sound written .parameter).mpr ⟨d, declared, rfl, parameter⟩
    cases section_content sound written .parameter member
    have listed : (d.id.text, (d.image doc).json) ∈ doc.sectionMembers .parameter :=
      List.mem_map.mpr ⟨d, List.mem_filter.mpr ⟨declared, decide_eq_true parameter⟩, rfl⟩
    rw [d.image_parameter doc parameter] at listed
    exact ⟨_, _, member, listed, image_parameterEntry sound declared parameter
      (violations_nil.mp clean d declared).2 (image_clear clear declared)⟩
  · obtain ⟨d, _, _, parameter, placed⟩ := resolve_unsupported sound refused
    exact Declaration.misplaced_parameter parameter placed

-- Two parameters of type String, one of which has an attribute that is called as the type.
def retyped : Document := run (.new "test")
  [ .add (.single ((Declaration.parameter "size" .string).setAttribute "Type" "Number")),
    .add (.parameter "name" (ParameterSpec.string.default "small")) ]

theorem retyped_resolves :
    retyped.resolve ⟨.allow, .allow⟩ = .ok (retyped.image []) := by
  have reached : retyped.Reachable := (Reachable.empty "test" _).run _
  exact (resolve_ok reached.sound).mpr ⟨by decide, [], rfl, rfl⟩

theorem retyped_parameters : retyped.Reachable ∧
    retyped.assemble ⟨⟨.allow, .allow⟩, {}⟩ = .ok ⟨((retyped.image []).json {}).text true, []⟩ ∧
    ∃ members, (retyped.image []).template {} = .ok (.object members) ∧
      (∀ d ∈ retyped.declarations, d.sec = .parameter →
        ∃ entries entry, ("Parameters", .object entries) ∈ members ∧
          (d.id.text, .object entry) ∈ entries ∧ Template.ParameterEntry retyped d entry) ∧
      retyped.declarations.map (·.sec) = [.parameter, .parameter] := by
  have reached : retyped.Reachable := (Reachable.empty "test" _).run _
  have writable : ∀ d ∈ retyped.declarations, d.Writable := by decide
  have assembles := assemble_eq ⟨⟨.allow, .allow⟩, {}⟩ writable retyped_resolves
  obtain ⟨resolved, members, again, written, _, entries⟩ :=
    (assemble_parameters reached).1 ⟨⟨.allow, .allow⟩, {}⟩ _ assembles
  rw [retyped_resolves] at again
  cases again
  exact ⟨reached, assembles, members, written, entries, by decide⟩

-- The template gives the first parameter another type than it was declared with, and nothing
-- keeps it from doing so.
theorem retyped_displaced :
    ¬ ∀ (doc : Document) (options : AssemblyOptions) (resolved : ResolvedDocument)
        (members : Entries Json), doc.Reachable → doc.resolve options.lint = .ok resolved →
        resolved.template options.template = .ok (.object members) →
        ∀ d ∈ doc.declarations, d.sec = .parameter →
          ∃ entries entry, ("Parameters", .object entries) ∈ members ∧
            (d.id.text, .object entry) ∈ entries ∧
            Entries.find? entry "Type" = some (.string d.kind) := by
  intro typed
  have reached : retyped.Reachable := (Reachable.empty "test" _).run _
  obtain ⟨members, written⟩ :
      ∃ members, (retyped.image []).template {} = .ok (.object members) := by
    rw [ResolvedDocument.template_eq]
    exact ⟨_, rfl⟩
  obtain ⟨entries, entry, member, listed, type⟩ :=
    typed retyped ⟨⟨.allow, .allow⟩, {}⟩ _ members reached retyped_resolves written _
      List.mem_cons_self rfl
  cases section_content reached.sound written .parameter member
  rcases List.mem_cons.mp listed with same | later
  · cases same
    have other : some (Json.string "Number") = some (.string "String") := type
    simp at other
  · have names : "size" = "name" := congrArg Prod.fst (List.mem_singleton.mp later)
    exact absurd names (by decide)

end Document

end StackTemplate
