import StackTemplate.Proofs.Turn

namespace StackTemplate

namespace Package

def declarations (package : Package) : List Declaration := package.members.map (·.2)

-- The name, the section and the id of every member, as far as no later member has the same name.
def handles (package : Package) : PackageHandles :=
  ⟨Entries.ofList (package.members.map fun (name, d) => (name, d.id, d.sec))⟩

-- The names, the ids and the sections are lists of their own, but they follow the same members.
theorem handles_eq (package : Package) : package.handles = ⟨Entries.ofList (package.names.zip
    ((package.declarations.map (·.id)).zip (package.declarations.map (·.sec))))⟩ := by
  simp only [handles, names, declarations, List.map_map, List.zip_map']
  rfl

theorem registerInto_on (package : Package) (doc : Document) :
    package.registerInto.on doc = doc.outcome (refusal? doc.declarations package.declarations)
      (doc.append package.declarations) package.handles := by
  rw [handles_eq]
  exact Drafting.on_then (Document.registerAll_on doc package.declarations) rfl

theorem handles_names (package : Package) : package.handles.names = package.names.eraseDups := by
  have keys : Entries.keys (package.members.map fun (name, d) => (name, d.id, d.sec)) =
      package.names := by
    rw [Entries.keys, List.map_map]
    rfl
  rw [PackageHandles.names, handles, Entries.ofList, Entries.keys_insertAll, keys]
  simp [Entries.keys]

theorem handles_last (package : Package) {name : String} (known : name ∈ package.names) :
    ∃ before d rest, package.members = before ++ (name, d) :: rest ∧ name ∉ rest.map (·.1) ∧
      package.handles.id? name = some d.id ∧ package.handles.section? name = some d.sec := by
  obtain ⟨before, d, rest, split, last⟩ := Entries.last_of_mem known
  have found : Entries.find? package.handles.handles name = some (d.id, d.sec) := by
    rw [handles, split, List.map_append, List.map_cons]
    apply Entries.find?_ofList_last
    simpa [Entries.keys, Function.comp_def] using last
  refine ⟨before, d, rest, split, last, ?_, ?_⟩
  · rw [PackageHandles.id?, found]
    rfl
  · rw [PackageHandles.section?, found]
    rfl

end Package

namespace Document

-- The first member that cannot follow what is held and the members before it is the error, and no
-- member stays behind.
structure Refuses (doc : Document) (package : Package) (e : DocumentError) : Prop where
  first : ∃ before d rest, package.declarations = before ++ d :: rest ∧
    Clear doc.declarations before ∧ Barred (doc.declarations ++ before) d e
  result : package.registerInto.on doc = (.error e, doc)

-- All members follow what is held in their order, and are found under the names given out. What has
-- entered once is refused from then on.
structure Takes (doc : Document) (package : Package) (handles : PackageHandles) : Prop where
  clear : Clear doc.declarations package.declarations
  result : package.registerInto.on doc = (.ok handles, doc.append package.declarations)
  found : ∀ name ∈ handles.names, ∃ d, (doc.append package.declarations).find? d.id = some d ∧
    handles.id? name = some d.id ∧ handles.section? name = some d.sec
  once : ∀ first rest, package.declarations = first :: rest →
    (doc.append package.declarations).Refuses package (.duplicateId first.id first.sec)

section
variable {doc : Document} {package : Package}

theorem refuses {e : DocumentError}
    (refused : refusal? doc.declarations package.declarations = some e) :
    doc.Refuses package e := by
  refine ⟨refusal?_some refused, ?_⟩
  rw [package.registerInto_on, outcome_error]
  exact ⟨refused, rfl⟩

theorem append_find? (sound : (doc.append package.declarations).Sound) {d : Declaration}
    (member : d ∈ package.declarations) :
    (doc.append package.declarations).find? d.id = some d :=
  (find?_eq_some sound).mpr ⟨List.mem_append_right _ member, rfl⟩

theorem refuses_again (sound : (doc.append package.declarations).Sound) {first : Declaration}
    {rest : List Declaration} (members : package.declarations = first :: rest) :
    (doc.append package.declarations).Refuses package (.duplicateId first.id first.sec) := by
  apply refuses
  have member : first ∈ package.declarations := by simp [members]
  have valid : first.id.isValid = true := by
    refine LogicalId.isValid_iff.mpr (sound.proper first.id ?_)
    rw [ids_append]
    exact List.mem_append_right _ (List.mem_map_of_mem member)
  have found := append_find? sound member
  rw [find?] at found
  conv_lhs => rw [members]
  rw [refusal?, if_pos valid, ← members, found]

theorem takes (sound : doc.Sound)
    (accepted : refusal? doc.declarations package.declarations = none) :
    doc.Takes package package.handles := by
  have entered : (doc.append package.declarations).Sound := append_sound sound accepted
  have result : package.registerInto.on doc =
      (.ok package.handles, doc.append package.declarations) := by
    rw [package.registerInto_on, outcome_ok]
    exact ⟨accepted, rfl, rfl⟩
  refine ⟨refusal?_none accepted, result, ?_, fun _ _ => refuses_again entered⟩
  intro name known
  rw [package.handles_names, List.mem_eraseDups] at known
  obtain ⟨before, d, rest, split, _, id, sec⟩ := package.handles_last known
  have member : d ∈ package.declarations := by simp [Package.declarations, split]
  exact ⟨d, append_find? entered member, id, sec⟩

end

-- A package has handles of its own: its names in the order of their first mention, each for the
-- last member that goes by it. Every document takes it whole and gives out these, or refuses it for
-- the first member that cannot enter and stays as it is.
theorem receive_package (package : Package) :
    ∃ handles : PackageHandles, handles.names = package.names.eraseDups ∧
      (∀ name ∈ package.names, ∃ before d rest, package.members = before ++ (name, d) :: rest ∧
        name ∉ rest.map (·.1) ∧
        handles.id? name = some d.id ∧ handles.section? name = some d.sec) ∧
      ∀ doc : Document, doc.Reachable →
        doc.Takes package handles ∨ ∃ e, doc.Refuses package e := by
  refine ⟨package.handles, package.handles_names, fun _ => package.handles_last, ?_⟩
  intro doc reached
  cases refused : refusal? doc.declarations package.declarations with
  | none => exact .inl (takes reached.sound refused)
  | some e => exact .inr ⟨e, refuses refused⟩

-- Three members of which the last goes by the name of the first.
def keyed : Package :=
  ⟨[("key", .parameter "keyName" .string), ("image", .parameter "image" .string),
    ("key", .output "key" (.ref "keyName"))]⟩

-- A document in which the second member's id is taken.
def imaged : Document := run (.new "test") [.add (.resource "image" "AWS::EC2::Image" [])]

theorem keyed_received : ∃ handles : PackageHandles, handles.names = ["key", "image"] ∧
    handles.id? "key" = some "key" ∧ handles.section? "key" = some .output ∧
    (Document.new "test").Takes keyed handles ∧
    imaged.Refuses keyed (.duplicateId "image" .resource) := by
  obtain ⟨handles, names, _, each⟩ := receive_package keyed
  have reached : imaged.Reachable := (Reachable.empty "test" _).run _
  have entered : (keyed.registerInto.on (Document.new "test")).1 = .ok keyed.handles := rfl
  have refused : (keyed.registerInto.on imaged).1 = .error (.duplicateId "image" .resource) := rfl
  have takes : (Document.new "test").Takes keyed handles := by
    rcases each (Document.new "test") (.empty "test" _) with takes | ⟨e, refuses⟩
    · exact takes
    · rw [refuses.result] at entered
      cases entered
  have refuses : imaged.Refuses keyed (.duplicateId "image" .resource) := by
    rcases each imaged reached with takes | ⟨e, refuses⟩
    · rw [takes.result] at refused
      cases refused
    · rw [refuses.result] at refused
      cases refused
      exact refuses
  have own : handles = keyed.handles := by
    rw [takes.result] at entered
    exact Except.ok.inj entered
  exact ⟨handles, names, by rw [own]; decide, by rw [own]; decide, takes, refuses⟩

end Document

end StackTemplate
