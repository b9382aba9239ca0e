import StackTemplate.Proofs.Precedence
import StackTemplate.Proofs.Places

namespace StackTemplate

namespace Entries
variable {α β : Type}

theorem insert_fresh {entries : Entries α} {key : String} (fresh : key ∉ keys entries) (value : α) :
    insert entries key value = entries ++ [(key, value)] := by
  induction entries with
  | nil => rfl
  | cons entry rest ih =>
    obtain ⟨other, old⟩ := entry
    obtain ⟨apart, later⟩ := not_or.mp (List.mem_cons.not.mp fresh)
    rw [insert, if_neg (Ne.symm apart), ih later, List.cons_append]

theorem insertAll_fresh {entries : Entries α} {more : List (String × α)}
    (distinct : Distinct (entries ++ more)) : insertAll entries more = entries ++ more := by
  induction more generalizing entries with
  | nil => exact (List.append_nil entries).symm
  | cons entry rest ih =>
    have fresh : entry.1 ∉ keys entries := by
      rw [Distinct, keys, List.map_append, List.nodup_append] at distinct
      exact fun known => distinct.2.2 entry.1 known entry.1 (List.mem_map_of_mem List.mem_cons_self) rfl
    have moved : (entries ++ [entry]) ++ rest = entries ++ entry :: rest := by simp
    rw [insertAll, List.foldl_cons, insert_fresh fresh]
    rw [← moved] at distinct ⊢
    exact ih distinct

theorem ofList_distinct {entries : List (String × α)} (distinct : Distinct entries) :
    ofList entries = entries := insertAll_fresh distinct

end Entries

theorem Value.keys_entryImages (vs : List (String × Value)) :
    Entries.keys (entryImages vs) = Entries.keys vs := by
  induction vs with
  | nil => rfl
  | cons entry vs ih => exact congrArg (entry.1 :: ·) ih

theorem ResolvedValue.keys_membersJson (vs : List (String × ResolvedValue)) :
    Entries.keys (membersJson vs) = Entries.keys vs := by
  induction vs with
  | nil => rfl
  | cons entry vs ih => exact congrArg (entry.1 :: ·) ih

def ResolvedDeclaration.resourceKeys (r : ResolvedDeclaration) : List String :=
  ["Type"] ++ (if r.condition.isSome then ["Condition"] else [])
    ++ (if r.dependsOn ≠ [] then ["DependsOn"] else [])
    ++ (if r.deletionPolicy.isSome then ["DeletionPolicy"] else [])
    ++ (if r.updatePolicy.isSome then ["UpdatePolicy"] else []) ++ ["Properties"]

namespace Template

def headings : List (Section × String) :=
  [(.parameter, "Parameters"), (.condition, "Conditions"), (.resource, "Resources"),
    (.output, "Outputs")]

-- The attributes of a resource keep their keys and the order of them.
def ResourceEntry (d : Declaration) (r : ResolvedDeclaration) (entry : Json) : Prop :=
  ∃ members properties, entry = .object members ∧ Entries.keys members = r.resourceKeys ∧
    ("Properties", .object properties) ∈ members ∧
    Entries.keys properties = Entries.keys d.attributes

-- The member of a section is the entry of one declaration, under its name.
def EntryOf (resolved : ResolvedDocument) (d : Declaration) (member : String × Json) : Prop :=
  member.1 = d.id.text ∧ ∃ r ∈ resolved.declarations, r.id = d.id ∧ entry r = .ok member.2 ∧
    (d.sec = .resource → ResourceEntry d r member.2)

structure Laid (doc : Document) (resolved : ResolvedDocument) (options : TemplateOptions)
    (members : Entries Json) : Prop where
  root : Entries.keys members = ["AWSTemplateFormatVersion", "Description"] ++
    (headings.filter fun heading =>
      ¬ (options.omitEmptySections = true ∧ doc.ofSection heading.1 = [])).map (·.2)
  sections : ∀ heading ∈ headings, ∀ content, (heading.2, content) ∈ members →
    ∃ entries, content = .object entries ∧ Entries.Distinct entries ∧
      Entries.keys entries = (doc.ofSection heading.1).map (·.id.text) ∧
      List.Forall₂ (EntryOf resolved) (doc.ofSection heading.1) entries

-- No section goes by the key of another or by one of the two that come first.
theorem headings_content (content : Section → Json) {kept : Section × String → Bool}
    {version description found : Json} {sec : Section} {key : String}
    (listed : (sec, key) ∈ headings)
    (member : (key, found) ∈ ("AWSTemplateFormatVersion", version) :: ("Description", description)
      :: (headings.filter kept).map fun heading => (heading.2, content heading.1)) :
    found = content sec := by
  have apart : ∀ heading ∈ headings, heading.2 ∉ ["AWSTemplateFormatVersion", "Description"] := by
    decide
  have own : ∀ a ∈ headings, ∀ b ∈ headings, a.2 = b.2 → a.1 = b.1 := by decide
  obtain ⟨first, second⟩ := not_or.mp (List.mem_cons.not.mp (apart _ listed))
  rcases List.mem_cons.mp member with same | later
  · exact absurd (congrArg Prod.fst same) first
  · rcases List.mem_cons.mp later with same | rest
    · exact absurd (List.mem_singleton.mpr (congrArg Prod.fst same)) second
    · obtain ⟨heading, selected, same⟩ := List.mem_map.mp rest
      obtain ⟨keys, contents⟩ := Prod.mk.inj same
      rw [← contents, own heading (List.mem_of_mem_filter selected) _ listed keys]

end Template

namespace ResolvedDeclaration

def resourceMembers (r : ResolvedDeclaration) : Entries Json :=
  [("Type", .string r.kind)] ++ Template.conditionMember r.condition
    ++ Template.dependsOnMember r.dependsOn ++ Template.deletionPolicyMember r.deletionPolicy
    ++ r.policyJson ++ [("Properties", .object (ResolvedValue.membersJson r.attributes))]

theorem keys_resourceMembers (r : ResolvedDeclaration) :
    Entries.keys r.resourceMembers = r.resourceKeys := by
  have condition : (Template.conditionMember r.condition).map (·.1) =
      if r.condition.isSome then ["Condition"] else [] := by
    cases r.condition <;> rfl
  have dependsOn : (Template.dependsOnMember r.dependsOn).map (·.1) =
      if r.dependsOn ≠ [] then ["DependsOn"] else [] := by
    cases r.dependsOn <;> rfl
  have deletion : (Template.deletionPolicyMember r.deletionPolicy).map (·.1) =
      if r.deletionPolicy.isSome then ["DeletionPolicy"] else [] := by
    cases r.deletionPolicy <;> rfl
  have policy : r.policyJson.map (·.1) =
      if r.updatePolicy.isSome then ["UpdatePolicy"] else [] := by
    unfold policyJson
    cases r.updatePolicy <;> rfl
  simp only [Entries.keys, resourceMembers, List.map_append, condition, dependsOn, deletion, policy,
    resourceKeys, List.map_cons, List.map_nil]

end ResolvedDeclaration

namespace Declaration

theorem image_resourceEntry (doc : Document) {d : Declaration} (resource : d.sec = .resource) :
    Template.ResourceEntry d (d.image doc) (d.image doc).json := by
  have sec : (d.image doc).sec = .resource := resource
  refine ⟨(d.image doc).resourceMembers, ResolvedValue.membersJson (d.image doc).attributes, ?_,
    (d.image doc).keys_resourceMembers, List.mem_append_right _ (List.mem_singleton_self _), ?_⟩
  · rw [ResolvedDeclaration.json, sec]
    rfl
  · rw [ResolvedValue.keys_membersJson]
    exact Value.keys_entryImages d.attributes

end Declaration

namespace Document

theorem image_ofSection (doc : Document) (advisories : List Advisory) (sec : Section) :
    (doc.image advisories).ofSection sec = (doc.ofSection sec).map (·.image doc) := by
  unfold ResolvedDocument.ofSection ofSection image
  exact List.filter_map

def sectionMembers (doc : Document) (sec : Section) : Entries Json :=
  (doc.ofSection sec).map fun d => (d.id.text, (d.image doc).json)

theorem keys_sectionMembers (doc : Document) (sec : Section) :
    Entries.keys (doc.sectionMembers sec) = (doc.ofSection sec).map (·.id.text) := by
  rw [Entries.keys, sectionMembers, List.map_map]
  rfl

theorem sectionMembers_distinct {doc : Document} (sound : doc.Sound) (sec : Section) :
    Entries.Distinct (doc.sectionMembers sec) := by
  have names : ((doc.ofSection sec).map (·.id)).Nodup :=
    sound.distinct.sublist (List.filter_sublist.map _)
  have texts : (((doc.ofSection sec).map (·.id)).map LogicalId.text).Nodup :=
    names.map fun a b same => congrArg LogicalId.mk same
  rw [Entries.Distinct, keys_sectionMembers]
  rwa [List.map_map] at texts

theorem image_sectionsJson {doc : Document} (sound : doc.Sound) (advisories : List Advisory)
    (options : TemplateOptions) :
    (doc.image advisories).sectionsJson options Section.all =
      (Template.headings.filter fun heading =>
        ¬ (options.omitEmptySections = true ∧ doc.ofSection heading.1 = [])).map
          fun heading => (heading.2, .object (doc.sectionMembers heading.1)) := by
  have listed : Template.headings = Section.all.map fun sec => (sec, sec.key) := rfl
  rw [listed, List.filter_map, List.map_map, ResolvedDocument.sectionsJson]
  have kept : (Section.all.filter fun sec =>
        !(((doc.image advisories).ofSection sec).isEmpty && options.omitEmptySections)) =
      Section.all.filter ((fun heading : Section × String =>
        decide ¬ (options.omitEmptySections = true ∧ doc.ofSection heading.1 = [])) ∘
          fun sec => (sec, sec.key)) := by
    refine List.filter_congr fun sec _ => ?_
    rw [image_ofSection]
    cases options.omitEmptySections <;> cases held : doc.ofSection sec <;> simp [held]
  rw [kept]
  refine List.map_congr_left fun sec _ => ?_
  have written : ((doc.image advisories).ofSection sec).map (fun r => (r.id.text, r.json)) =
      doc.sectionMembers sec := by
    rw [image_ofSection, List.map_map]
    rfl
  rw [written, Entries.ofList_distinct (sectionMembers_distinct sound sec)]
  rfl

-- Where nothing keeps a document from being written, nothing keeps any declaration from it.
theorem image_clear {doc : Document} {advisories : List Advisory}
    (clear : (doc.image advisories).faults Section.all = []) {d : Declaration}
    (declared : d ∈ doc.declarations) : (d.image doc).faults = [] := by
  have sections : d.sec ∈ Section.all := by cases d.sec <;> decide
  refine List.flatMap_eq_nil_iff.mp (List.flatMap_eq_nil_iff.mp clear d.sec sections) _ ?_
  exact List.mem_filter.mpr ⟨List.mem_map_of_mem declared, decide_eq_true rfl⟩

theorem image_laid {doc : Document} (sound : doc.Sound) {advisories : List Advisory}
    (clear : (doc.image advisories).faults Section.all = []) (options : TemplateOptions) :
    Template.Laid doc (doc.image advisories) options
      (("AWSTemplateFormatVersion", .string doc.formatVersion)
        :: ("Description", .string doc.description)
        :: (doc.image advisories).sectionsJson options Section.all) := by
  rw [image_sectionsJson sound]
  refine ⟨?_, ?_⟩
  · rw [Entries.keys, List.map_cons, List.map_cons, List.map_map]
    rfl
  · rintro ⟨sec, key⟩ listed content member
    have written : content = .object (doc.sectionMembers sec) :=
      Template.headings_content (fun sec => .object (doc.sectionMembers sec)) listed member
    refine ⟨_, written, sectionMembers_distinct sound sec, keys_sectionMembers doc sec, ?_⟩
    refine List.forall₂_map_right_iff.mpr (List.forall₂_same.mpr fun d found => ?_)
    have declared : d.image doc ∈ (doc.image advisories).declarations :=
      List.mem_map_of_mem (List.mem_of_mem_filter found)
    have whole := image_clear clear (List.mem_of_mem_filter found)
    refine ⟨rfl, d.image doc, declared, rfl, ?_, Declaration.image_resourceEntry doc⟩
    rw [Template.entry_eq, whole]
    rfl

theorem assemble_parts {doc : Document} {options : AssemblyOptions} {assembly : Assembly}
    (assembles : doc.assemble options = .ok assembly) :
    ∃ resolved tree, doc.resolve options.lint = .ok resolved ∧
      resolved.template options.template = .ok tree ∧
      assembly = ⟨tree.text options.template.pretty, resolved.advisories⟩ := by
  obtain ⟨resolved, resolves, rest⟩ := bind_ok.mp assembles
  obtain ⟨tree, written, done⟩ := bind_ok.mp rest
  cases done
  exact ⟨resolved, tree, mapError_ok.mp resolves, mapError_ok.mp written, rfl⟩

-- Whatever the options are, an assembled template has its members in their places.
theorem assemble_layout {doc : Document} {options : AssemblyOptions} {assembly : Assembly}
    (reached : doc.Reachable) (assembles : doc.assemble options = .ok assembly) :
    ∃ resolved members, doc.resolve options.lint = .ok resolved ∧
      resolved.template options.template = .ok (.object members) ∧
      assembly = ⟨(Json.object members).text options.template.pretty, resolved.advisories⟩ ∧
      Template.Laid doc resolved options.template members := by
  obtain ⟨resolved, tree, resolves, written, made⟩ := assemble_parts assembles
  obtain ⟨_, advisories, _, rfl⟩ := (resolve_ok reached.sound).mp resolves
  have settled := written
  rw [ResolvedDocument.template_eq, settle_ok, List.head?_eq_none_iff] at settled
  obtain ⟨clear, rfl⟩ := settled
  exact ⟨_, _, resolves, written, made, image_laid reached.sound clear options.template⟩

-- A queue that has every setting, in a document without outputs.
def settled : Document := run (.new "test")
  [ .add (.parameter "size" .string),
    .add (.condition "Large" (.equals (.ref "size") "xl")),
    .add (.resource "Bucket" "AWS::S3::Bucket" []),
    .add (.builtResource (((((Declaration.resource "Queue" "AWS::SQS::Queue"
      [("Zeta", 1), ("Alpha", .ref "size")]).after "Bucket").onlyIf "Large").withDeletionPolicy
      .retain).withUpdatePolicy (.map [("Pause", true)]))) ]

theorem settled_layout : settled.Reachable ∧
    settled.assemble ⟨{}, ⟨false, true⟩⟩ =
      .ok ⟨((settled.image []).json ⟨false, true⟩).text false, []⟩ ∧
    ∃ members, (settled.image []).template ⟨false, true⟩ = .ok (.object members) ∧
      Template.Laid settled (settled.image []) ⟨false, true⟩ members ∧
      Entries.keys members =
        ["AWSTemplateFormatVersion", "Description", "Parameters", "Conditions", "Resources"] ∧
      (settled.ofSection .resource).map (fun d => (d.image settled).resourceKeys) =
        [["Type", "Properties"],
          ["Type", "Condition", "DependsOn", "DeletionPolicy", "UpdatePolicy", "Properties"]] := by
  have reached : settled.Reachable := (Reachable.empty "test" _).run _
  have resolves : settled.resolve {} = .ok (settled.image []) :=
    (resolve_ok reached.sound).mpr ⟨by decide, [], by decide, rfl⟩
  have finite : ∀ d ∈ settled.declarations, ∀ x ∈ d.fractions, x.isFinite = true := by decide
  have expressed : ∀ d ∈ settled.declarations, d.sec = .condition →
      (d.attribute? Declaration.expressionKey).isSome = true := by decide
  have writable : ∀ d ∈ settled.declarations, d.Writable :=
    fun d member => ⟨finite d member, expressed d member⟩
  have assembles := assemble_eq ⟨{}, ⟨false, true⟩⟩ writable resolves
  obtain ⟨resolved, members, again, written, _, laid⟩ := assemble_layout reached assembles
  rw [resolves] at again
  cases again
  exact ⟨reached, assembles, members, written, laid, laid.root, by decide⟩

end Document

end StackTemplate
