import StackTemplate.Proofs.Building
import StackTemplate.Proofs.Occurrence
import StackTemplate.Proofs.Precedence

namespace StackTemplate

namespace Declaration

def RefersTo (d : Declaration) (target : LogicalId) : Prop :=
  d.Holds (.ref target) ∨ ∃ name, d.Holds (.getAtt target name)

-- The resources referred to, depth first and left to right, the update policy last. A resource
-- stands in the list as often as it is referred to.
def pointedResources (doc : Document) (d : Declaration) : List LogicalId :=
  ((d.valueEdges.filter (·.kind ∈ [.ref, .getAtt])).map (·.target)).filter
    (doc.sectionOf · = .resource)

theorem refersTo_iff {d : Declaration} {target : LogicalId} :
    d.RefersTo target ↔ ∃ edge ∈ d.valueEdges, edge.kind ∈ [.ref, .getAtt] ∧ edge.target = target := by
  rw [RefersTo, holds_ref, holds_getAtt]
  constructor
  · rintro (ref | getAtt)
    · exact ⟨_, ref, by simp, rfl⟩
    · exact ⟨_, getAtt, by simp, rfl⟩
  · rintro ⟨⟨kind, target⟩, named, either, rfl⟩
    simp only [List.mem_cons, List.not_mem_nil, or_false] at either
    rcases either with rfl | rfl
    · exact .inl named
    · exact .inr named

-- What a choice names is a condition, so the resources among all names are those referred to.
theorem namedResources_eq {doc : Document} (sound : doc.Sound) {d : Declaration}
    (member : d ∈ doc.declarations) (clear : ∀ edge ∈ d.edges, doc.judge d.id edge = none) :
    d.namedResources doc = d.pointedResources doc := by
  unfold namedResources pointedResources
  rw [List.filter_map, List.filter_map, List.filter_filter]
  refine congrArg (List.map Edge.target) (List.filter_congr fun edge named => ?_)
  have allowed := Document.sectionOf_allowed sound member (clear edge (mem_edges.mpr (.inl named)))
  have kinds := valueEdges_kind named
  obtain ⟨kind, target⟩ := edge
  simp only [List.mem_cons, List.not_mem_nil, or_false] at kinds
  rcases kinds with rfl | rfl | rfl
  · simp
  · simp
  · have condition : doc.sectionOf target = .condition := List.mem_singleton.mp allowed
    simp [condition]

end Declaration

-- The dependencies that follow from how a declaration was built and from what its values refer to.
structure ResolvedDeclaration.DependsExactly (doc : Document) (d : Declaration)
    (r : ResolvedDeclaration) : Prop where
  id : r.id = d.id
  elsewhere : d.sec ≠ .resource → r.dependsOn = []
  listed : d.sec = .resource → ∀ calls, d.BuiltBy calls →
    r.dependsOn = (Declaration.asked calls).eraseDups ++
      ((d.pointedResources doc).filter (· ∉ Declaration.asked calls)).eraseDups
  distinct : r.dependsOn.Nodup
  complete : d.sec = .resource → ∀ t ∈ doc.declarations, t.sec = .resource → d.RefersTo t.id →
    t.id ∈ r.dependsOn
  resources : ∀ target ∈ r.dependsOn, ∃ t ∈ doc.declarations, t.id = target ∧ t.sec = .resource

namespace Declaration

theorem image_dependsOn (doc : Document) {d : Declaration} (resource : d.sec = .resource) :
    (d.image doc).dependsOn = extendListed d.dependsOn (d.namedResources doc) := by
  simp [image, resource]

theorem image_dependsOn_nil (doc : Document) {d : Declaration} (other : d.sec ≠ .resource) :
    (d.image doc).dependsOn = [] := by
  simp [image, other]

theorem image_dependsExactly {doc : Document} (sound : doc.Sound) {d : Declaration}
    (member : d ∈ doc.declarations) (built : d.Built)
    (clear : ∀ edge ∈ d.edges, doc.judge d.id edge = none) :
    (d.image doc).DependsExactly doc d := by
  obtain ⟨someCalls, builtSomehow⟩ := built
  refine ⟨rfl, image_dependsOn_nil doc, ?_, ?_, ?_, ?_⟩
  · intro resource calls builtBy
    rw [image_dependsOn doc resource, namedResources_eq sound member clear, extendListed_eq,
      builtBy.dependsOn_eq]
    simp only [List.mem_eraseDups]
  · by_cases resource : d.sec = .resource
    · rw [image_dependsOn doc resource]
      exact extendListed_nodup builtSomehow.dependsOn_nodup _
    · rw [image_dependsOn_nil doc resource]
      exact List.nodup_nil
  · intro resource t declared found refers
    obtain ⟨edge, named, _, same⟩ := refersTo_iff.mp refers
    rw [image_dependsOn doc resource]
    refine mem_extendListed.mpr (.inr (mem_namedResources.mpr ⟨⟨edge, named, same⟩, ?_⟩))
    rw [Document.sectionOf_eq sound declared, found]
  · intro target listed
    obtain ⟨t, declared, named, allowed⟩ :=
      ((image_grounded sound member clear).dependsOn target listed).declared
    exact ⟨t, declared, named, List.mem_singleton.mp allowed⟩

end Declaration

namespace Document

-- In registration order, every declaration of a document was built by calls, and its resolved form
-- depends on exactly what it asked for and refers to.
theorem resolve_dependsOn {doc : Document} {options : LintOptions} {resolved : ResolvedDocument}
    (authored : doc.Authored) (resolves : doc.resolve options = .ok resolved) :
    List.Forall₂ (fun d r => d.Built ∧ r.DependsExactly doc d) doc.declarations
      resolved.declarations := by
  have sound := authored.reachable.sound
  refine resolve_forall sound resolves fun d member clear => ?_
  have built := authored.built d member
  exact ⟨built, Declaration.image_dependsExactly sound member built clear⟩

-- A queue that asks twice for the topic and refers twice to the bucket, which it asks for as well.
def waiting : Document := run (.new "test")
  [ .add (.parameter "size" .string),
    .add (.resource "Bucket" "AWS::S3::Bucket" []),
    .add (.resource "Topic" "AWS::SNS::Topic" []),
    .add (.resource "Key" "AWS::KMS::Key" []),
    .add (.builtResource (((((Declaration.resource "Queue" "AWS::SQS::Queue"
      [("Source", .list [.ref "Key", .join "-" [.getAtt "Bucket" "Arn", .ref "size"]])]).after
      "Topic").after "Bucket").after "Topic").withUpdatePolicy (.base64 (.ref "Bucket")))) ]

theorem waiting_dependsOn : waiting.Authored ∧ waiting.resolve {} = .ok (waiting.image []) ∧
    List.Forall₂ (fun d r => d.Built ∧ r.DependsExactly waiting d) waiting.declarations
      (waiting.image []).declarations ∧
    (waiting.image []).declarations.map (·.dependsOn) =
      [[], [], [], [], [⟨"Topic"⟩, ⟨"Bucket"⟩, ⟨"Key"⟩]] := by
  have authored : waiting.Authored := by
    refine (Authored.empty "test" _).run ?_
    simp only [List.forall_mem_cons, Operation.Built, Registration.given, List.not_mem_nil,
      false_imp_iff, implies_true, and_true]
    exact ⟨⟨[], .parameter _ _, rfl⟩, ⟨[], .resource _ _ _, rfl⟩, ⟨[], .resource _ _ _, rfl⟩,
      ⟨[], .resource _ _ _, rfl⟩, ⟨[.after "Topic", .after "Bucket", .after "Topic",
        .updatePolicy (.base64 (.ref "Bucket"))], .resource _ _ _, rfl⟩⟩
  have resolves : waiting.resolve {} = .ok (waiting.image []) :=
    (resolve_ok authored.reachable.sound).mpr ⟨by decide, [], by decide, rfl⟩
  exact ⟨authored, resolves, resolve_dependsOn authored resolves, by decide⟩

end Document

end StackTemplate
