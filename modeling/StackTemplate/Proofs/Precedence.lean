import Mathlib.Logic.Relation
import StackTemplate.Proofs.Verdict

namespace StackTemplate

inductive ResolvedValue.Within (node : ResolvedValue) : ResolvedValue → Prop where
  | here : Within node node
  | item {items : List ResolvedValue} {v : ResolvedValue} (member : v ∈ items)
      (inside : Within node v) : Within node (.list items)
  | entry {entries : List (String × ResolvedValue)} {key : String} {v : ResolvedValue}
      (member : (key, v) ∈ entries) (inside : Within node v) : Within node (.map entries)
  | part {separator : String} {parts : List ResolvedValue} {v : ResolvedValue} (member : v ∈ parts)
      (inside : Within node v) : Within node (.join separator parts)
  | whenTrue {condition : String} {a b : ResolvedValue} (inside : Within node a) :
      Within node (.choose condition a b)
  | whenFalse {condition : String} {a b : ResolvedValue} (inside : Within node b) :
      Within node (.choose condition a b)
  | left {a b : ResolvedValue} (inside : Within node a) : Within node (.equals a b)
  | right {a b : ResolvedValue} (inside : Within node b) : Within node (.equals a b)
  | encoded {v : ResolvedValue} (inside : Within node v) : Within node (.base64 v)

def ResolvedDeclaration.Holds (d : ResolvedDeclaration) (node : ResolvedValue) : Prop :=
  (∃ entry ∈ d.attributes, node.Within entry.2) ∨
    ∃ policy, d.updatePolicy = some policy ∧ node.Within policy

-- A declaration of one of the sections has the name, and it was registered before the owner.
def Document.Precedes (doc : Document) (sections : List Section) (target owner : LogicalId) :
    Prop :=
  ∃ before d rest, doc.declarations = before ++ d :: rest ∧ d.id = owner ∧
    ∃ t ∈ before, t.id = target ∧ t.sec ∈ sections

-- Whatever the declaration makes the engine look up is known to it or was registered earlier.
structure ResolvedDeclaration.Grounded (doc : Document) (d : ResolvedDeclaration) : Prop where
  ref : ∀ token, d.Holds (.ref token) →
    token ∈ ["AWS::AccountId", "AWS::Region", "AWS::StackName", "AWS::StackId", "AWS::Partition",
      "AWS::NoValue"] ∨ doc.Precedes [.parameter, .resource] ⟨token⟩ d.id
  getAtt : ∀ target name, d.Holds (.getAtt target name) → doc.Precedes [.resource] ⟨target⟩ d.id
  choose : ∀ condition a b, d.Holds (.choose condition a b) →
    doc.Precedes [.condition] ⟨condition⟩ d.id
  condition : ∀ name, d.condition = some name → doc.Precedes [.condition] name d.id
  dependsOn : ∀ target ∈ d.dependsOn, doc.Precedes [.resource] target d.id

def ResolvedValue.ComesFrom (edges : List Edge) : ResolvedValue → Prop
  | .ref token => (∃ parameter : Pseudo, token = parameter.token) ∨ ⟨.ref, ⟨token⟩⟩ ∈ edges
  | .getAtt target _ => ⟨.getAtt, ⟨target⟩⟩ ∈ edges
  | .choose condition _ _ => ⟨.choose, ⟨condition⟩⟩ ∈ edges
  | _ => True

theorem ResolvedValue.ComesFrom.mono {node : ResolvedValue} {few many : List Edge}
    (known : node.ComesFrom few) (more : few ⊆ many) : node.ComesFrom many := by
  cases node with
  | ref token => exact known.imp id fun member => more member
  | getAtt target name => exact more known
  | choose condition a b => exact more known
  | _ => trivial

mutual

theorem Value.image_comesFrom {node : ResolvedValue} : ∀ v : Value, node.Within v.image →
    node.ComesFrom v.edges
  | .string _, inside => by cases inside; trivial
  | .number _, inside => by cases inside; trivial
  | .bool _, inside => by cases inside; trivial
  | .pseudo parameter, inside => by cases inside; exact .inl ⟨parameter, rfl⟩
  | .ref target, inside => by cases inside; exact .inr (List.mem_singleton_self _)
  | .getAtt target name, inside => by cases inside; exact List.mem_singleton_self _
  | .list vs, inside => by
    rw [image] at inside
    cases inside with
    | here => trivial
    | item member inside => exact items_comesFrom vs member inside
  | .map vs, inside => by
    rw [image] at inside
    cases inside with
    | here => trivial
    | entry member inside => exact entries_comesFrom vs member inside
  | .join separator vs, inside => by
    rw [image] at inside
    cases inside with
    | here => trivial
    | part member inside => exact items_comesFrom vs member inside
  | .choose condition a b, inside => by
    rw [image] at inside
    rw [edges]
    cases inside with
    | here => exact List.mem_cons_self
    | whenTrue inside =>
      exact (image_comesFrom a inside).mono
        (List.subset_cons_of_subset _ (List.subset_append_left _ _))
    | whenFalse inside =>
      exact (image_comesFrom b inside).mono
        (List.subset_cons_of_subset _ (List.subset_append_right _ _))
  | .equals a b, inside => by
    rw [image] at inside
    rw [edges]
    cases inside with
    | here => trivial
    | left inside => exact (image_comesFrom a inside).mono (List.subset_append_left _ _)
    | right inside => exact (image_comesFrom b inside).mono (List.subset_append_right _ _)
  | .base64 v, inside => by
    rw [image] at inside
    cases inside with
    | here => trivial
    | encoded inside => exact image_comesFrom v inside

theorem Value.items_comesFrom {node : ResolvedValue} : ∀ (vs : List Value) {r : ResolvedValue},
    r ∈ itemImages vs → node.Within r → node.ComesFrom (itemEdges vs)
  | v :: vs, r, member, inside => by
    rcases List.mem_cons.mp member with rfl | later
    · exact (image_comesFrom v inside).mono (by simp [itemEdges])
    · exact (items_comesFrom vs later inside).mono (by simp [itemEdges])

theorem Value.entries_comesFrom {node : ResolvedValue} : ∀ (vs : List (String × Value))
    {key : String} {r : ResolvedValue}, (key, r) ∈ entryImages vs → node.Within r →
    node.ComesFrom (entryEdges vs)
  | (_, v) :: vs, key, r, member, inside => by
    rcases List.mem_cons.mp member with same | later
    · cases same
      exact (image_comesFrom v inside).mono (by simp [entryEdges])
    · exact (entries_comesFrom vs later inside).mono (by simp [entryEdges])

end

theorem mem_extendListed {id : LogicalId} {listed ids : List LogicalId} :
    id ∈ extendListed listed ids ↔ id ∈ listed ∨ id ∈ ids := by
  induction ids generalizing listed with
  | nil => simp [extendListed]
  | cons first rest ih =>
    rw [extendListed, ih]
    split
    · rename_i known
      constructor
      · rintro (old | new)
        · exact .inl old
        · exact .inr (List.mem_cons_of_mem _ new)
      · rintro (old | new)
        · exact .inl old
        · rcases List.mem_cons.mp new with rfl | new
          · exact .inl known
          · exact .inr new
    · simp [or_assoc]

namespace Document

theorem sectionOf_eq {doc : Document} (sound : doc.Sound) {d : Declaration}
    (member : d ∈ doc.declarations) : doc.sectionOf d.id = d.sec := by
  rw [sectionOf, (find?_eq_some sound).mpr ⟨member, rfl⟩]

theorem precedes_earlier {doc : Document} (sound : doc.Sound) {sections : List Section}
    {target owner : LogicalId} (precedes : doc.Precedes sections target owner) :
    doc.ids.idxOf target < doc.ids.idxOf owner := by
  obtain ⟨before, d, rest, split, rfl, t, member, rfl, _⟩ := precedes
  obtain ⟨i, bound, there⟩ := List.mem_iff_getElem.mp member
  have first : doc.declarations[i]? = some t := by
    rw [split, List.getElem?_append_left bound, List.getElem?_eq_getElem bound, there]
  have second : doc.declarations[before.length]? = some d := by simp [split]
  rw [idxOf_eq sound first, idxOf_eq sound second]
  exact bound

theorem precedes_only {doc : Document} (sound : doc.Sound) {sections : List Section} {sec : Section}
    {target owner : LogicalId} (precedes : doc.Precedes sections target owner)
    (found : doc.sectionOf target = sec) : doc.Precedes [sec] target owner := by
  obtain ⟨before, d, rest, split, named, t, member, rfl, _⟩ := precedes
  have declared : t ∈ doc.declarations := by rw [split]; exact List.mem_append_left _ member
  rw [sectionOf_eq sound declared] at found
  exact ⟨before, d, rest, split, named, t, member, rfl, by simp [found]⟩

-- A naming with which nothing is wrong names an earlier declaration of a section it can name.
theorem judge_none {doc : Document} (sound : doc.Sound) {d : Declaration}
    (member : d ∈ doc.declarations) {edge : Edge} (clear : doc.judge d.id edge = none) :
    doc.Precedes edge.kind.allowed edge.target d.id := by
  unfold judge at clear
  split at clear
  · cases clear
  · rename_i other
    split at clear
    · cases clear
    · rename_i t found
      split at clear
      · cases clear
      · rename_i allowed
        split at clear
        · cases clear
        · rename_i forward
          obtain ⟨declared, named⟩ := (find?_eq_some sound).mp found
          obtain ⟨i, here⟩ := List.mem_iff_getElem?.mp member
          obtain ⟨j, there⟩ := List.mem_iff_getElem?.mp declared
          have apart : j ≠ i := by
            rintro rfl
            rw [here] at there
            cases there
            exact other named.symm
          rw [← named, idxOf_eq sound here, idxOf_eq sound there] at forward
          have earlier : j < i := by omega
          obtain ⟨bound, rfl⟩ := List.getElem?_eq_some_iff.mp here
          refine ⟨doc.declarations.take i, _, doc.declarations.drop (i + 1), ?_, rfl, t, ?_, named,
            by simpa using allowed⟩
          · simp
          · exact List.mem_of_getElem? (by rw [List.getElem?_take_of_lt earlier]; exact there)

theorem Precedes.declared {doc : Document} {sections : List Section} {target owner : LogicalId}
    (precedes : doc.Precedes sections target owner) :
    ∃ t ∈ doc.declarations, t.id = target ∧ t.sec ∈ sections := by
  obtain ⟨before, d, rest, split, _, t, earlier, named, allowed⟩ := precedes
  refine ⟨t, ?_, named, allowed⟩
  rw [split]
  exact List.mem_append_left _ earlier

theorem sectionOf_allowed {doc : Document} (sound : doc.Sound) {d : Declaration}
    (member : d ∈ doc.declarations) {edge : Edge} (clear : doc.judge d.id edge = none) :
    doc.sectionOf edge.target ∈ edge.kind.allowed := by
  obtain ⟨t, declared, named, allowed⟩ := (judge_none sound member clear).declared
  rwa [← named, sectionOf_eq sound declared]

-- And the other way: nothing is wrong with naming an earlier declaration that can be named so.
theorem precedes_judge {doc : Document} (sound : doc.Sound) {edge : Edge} {owner : LogicalId}
    (precedes : doc.Precedes edge.kind.allowed edge.target owner) :
    doc.judge owner edge = none := by
  have earlier := precedes_earlier sound precedes
  obtain ⟨before, d, rest, split, _, t, member, named, allowed⟩ := precedes
  have other : edge.target ≠ owner := by
    intro same
    rw [same] at earlier
    exact Nat.lt_irrefl _ earlier
  have declared : t ∈ doc.declarations := by
    rw [split]
    exact List.mem_append_left _ member
  have found : doc.find? edge.target = some t := (find?_eq_some sound).mpr ⟨declared, named⟩
  simp [judge, other, found, allowed, Nat.not_lt.mpr (Nat.le_of_lt earlier)]

end Document

namespace Declaration

theorem mem_edges {d : Declaration} {edge : Edge} :
    edge ∈ d.edges ↔ edge ∈ d.valueEdges ∨
      (∃ name, d.condition = some name ∧ edge = ⟨.condition, name⟩) ∨
      ∃ target ∈ d.dependsOn, edge = ⟨.dependsOn, target⟩ := by
  simp [edges, conditionEdges, eq_comm]

theorem image_holds {doc : Document} {d : Declaration} {node : ResolvedValue}
    (holds : (d.image doc).Holds node) : node.ComesFrom d.valueEdges := by
  rcases holds with ⟨⟨key, r⟩, member, inside⟩ | ⟨policy, given, inside⟩
  · exact (Value.entries_comesFrom d.attributes member inside).mono (List.subset_append_left _ _)
  · obtain ⟨v, written, rfl⟩ := Option.map_eq_some_iff.mp given
    refine (Value.image_comesFrom v inside).mono ?_
    rw [valueEdges, written]
    exact List.subset_append_right _ _

theorem mem_namedResources {doc : Document} {d : Declaration} {target : LogicalId} :
    target ∈ d.namedResources doc ↔
      (∃ edge ∈ d.valueEdges, edge.target = target) ∧ doc.sectionOf target = .resource := by
  simp [namedResources]

theorem image_grounded {doc : Document} (sound : doc.Sound) {d : Declaration}
    (member : d ∈ doc.declarations) (clear : ∀ edge ∈ d.edges, doc.judge d.id edge = none) :
    (d.image doc).Grounded doc := by
  have precedes (edge : Edge) (named : edge ∈ d.edges) :
      doc.Precedes edge.kind.allowed edge.target d.id :=
    Document.judge_none sound member (clear edge named)
  have valued (edge : Edge) (named : edge ∈ d.valueEdges) :
      doc.Precedes edge.kind.allowed edge.target d.id :=
    precedes edge (mem_edges.mpr (.inl named))
  refine ⟨?_, ?_, ?_, ?_, ?_⟩
  · intro token holds
    rcases image_holds holds with ⟨parameter, rfl⟩ | named
    · left
      cases parameter <;> simp [Pseudo.token]
    · exact .inr (valued _ named)
  · intro target name holds
    exact valued _ (image_holds holds)
  · intro condition a b holds
    exact valued _ (image_holds holds)
  · intro name given
    exact precedes ⟨.condition, name⟩ (mem_edges.mpr (.inr (.inl ⟨name, given, rfl⟩)))
  · intro target listed
    -- What is depended on was asked for, or it is a resource that a value names.
    by_cases resource : d.sec = .resource
    · have listed : target ∈ extendListed d.dependsOn (d.namedResources doc) := by
        simpa [image, resource] using listed
      rcases mem_extendListed.mp listed with asked | named
      · exact precedes ⟨.dependsOn, target⟩ (mem_edges.mpr (.inr (.inr ⟨target, asked, rfl⟩)))
      · obtain ⟨⟨edge, inside, rfl⟩, found⟩ := mem_namedResources.mp named
        exact Document.precedes_only sound (valued edge inside) found
    · simp [image, resource] at listed

end Declaration

def ResolvedDocument.DependsOn (resolved : ResolvedDocument) (owner target : LogicalId) : Prop :=
  ∃ d ∈ resolved.declarations, d.id = owner ∧ target ∈ d.dependsOn

namespace Document

theorem dependsOn_earlier {doc : Document} (sound : doc.Sound) {resolved : ResolvedDocument}
    (grounded : ∀ d ∈ resolved.declarations, d.Grounded doc) {owner target : LogicalId}
    (depends : resolved.DependsOn owner target) :
    doc.ids.idxOf target < doc.ids.idxOf owner := by
  obtain ⟨d, member, rfl, listed⟩ := depends
  exact precedes_earlier sound ((grounded d member).dependsOn target listed)

-- Along any chain of dependencies the place of registration goes down.
theorem dependsOn_acyclic {doc : Document} (sound : doc.Sound) {resolved : ResolvedDocument}
    (grounded : ∀ d ∈ resolved.declarations, d.Grounded doc) (id : LogicalId) :
    ¬ Relation.TransGen resolved.DependsOn id id := by
  have down {owner target : LogicalId} (chain : Relation.TransGen resolved.DependsOn owner target) :
      doc.ids.idxOf target < doc.ids.idxOf owner := by
    induction chain with
    | single depends => exact dependsOn_earlier sound grounded depends
    | tail _ depends ih => exact Nat.lt_trans (dependsOn_earlier sound grounded depends) ih
  exact fun cycle => Nat.lt_irrefl _ (down cycle)

theorem resolve_grounded {doc : Document} {options : LintOptions} {resolved : ResolvedDocument}
    (reached : doc.Reachable) (resolves : doc.resolve options = .ok resolved) :
    resolved.declarations.map (·.id) = doc.ids ∧
    (∀ d ∈ resolved.declarations, d.Grounded doc) ∧
    (∀ owner target, resolved.DependsOn owner target →
      doc.ids.idxOf target < doc.ids.idxOf owner) ∧
    ∀ id, ¬ Relation.TransGen resolved.DependsOn id id := by
  have sound := reached.sound
  obtain ⟨clean, advisories, _, rfl⟩ := (resolve_ok sound).mp resolves
  have grounded : ∀ d ∈ (doc.image advisories).declarations, d.Grounded doc := by
    intro d member
    obtain ⟨given, declared, rfl⟩ := List.mem_map.mp member
    exact Declaration.image_grounded sound declared (violations_nil.mp clean given declared).2
  refine ⟨?_, grounded, fun _ _ => dependsOn_earlier sound grounded,
    dependsOn_acyclic sound grounded⟩
  rw [image, List.map_map]
  rfl

-- A queue that names a bucket under a condition, and an output that names the queue.
def layered : Document := run (.new "test")
  [ .add (.parameter "size" .string),
    .add (.condition "Large" (.equals (.ref "size") "xl")),
    .add (.resource "Bucket" "AWS::S3::Bucket" []),
    .add (.resource "Queue" "AWS::SQS::Queue"
      [("Source", .choose "Large" (.getAtt "Bucket" "Arn") (.pseudo .noValue))]),
    .add (.output "queue" (.join "-" [.ref "Queue", .pseudo .region])) ]

theorem layered_grounded : layered.Reachable ∧ layered.resolve {} = .ok (layered.image []) ∧
    (layered.image []).DependsOn "Queue" "Bucket" ∧
    layered.ids.idxOf ⟨"Bucket"⟩ < layered.ids.idxOf ⟨"Queue"⟩ := by
  have reached : layered.Reachable := (Reachable.empty "test" _).run _
  have resolves : layered.resolve {} = .ok (layered.image []) :=
    (resolve_ok reached.sound).mpr ⟨by decide, [], by decide, rfl⟩
  have depends : (layered.image []).DependsOn "Queue" "Bucket" :=
    ⟨_, List.mem_map_of_mem (List.mem_of_getElem? (i := 3) rfl), rfl, by decide⟩
  exact ⟨reached, resolves, depends, (resolve_grounded reached resolves).2.2.1 _ _ depends⟩

end Document

end StackTemplate
