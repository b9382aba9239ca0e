import StackTemplate.Proofs.Json.Reading
import StackTemplate.Proofs.Layout

namespace StackTemplate

namespace Json

theorem membersFinite_iff {vs : List (String × Json)} :
    MembersFinite vs ↔ ∀ entry ∈ vs, entry.2.Finite := by
  induction vs with
  | nil => simp [MembersFinite]
  | cons entry vs ih => simp [MembersFinite, ih]

theorem membersFinite_append {front back : Entries Json} :
    MembersFinite (front ++ back) ↔ MembersFinite front ∧ MembersFinite back := by
  simp [membersFinite_iff, or_imp, forall_and]

-- Members written over others bring no number that neither of them had.
theorem membersFinite_insertAll {front back : Entries Json} (first : MembersFinite front)
    (second : MembersFinite back) : MembersFinite (Entries.insertAll front back) := by
  refine membersFinite_iff.mpr fun entry member => ?_
  rcases Entries.mem_insertAll member with old | new
  · exact membersFinite_iff.mp first entry old
  · exact membersFinite_iff.mp second entry new

end Json

open Json

namespace ResolvedValue

mutual

theorem json_finite (path : Path) : ∀ v : ResolvedValue, v.faults path = [] → v.json.Finite
  | .string _, _ => trivial
  | .number (.int _), _ => trivial
  | .number (.float x), clear => by
    by_contra infinite
    have infinite : ¬ x.isFinite = true := infinite
    rw [faults, if_neg infinite] at clear
    cases clear
  | .bool _, _ => trivial
  | .list vs, clear => itemsJson_finite path 0 vs clear
  | .map vs, clear => membersJson_finite path vs clear
  | .ref _, _ => ⟨trivial, trivial⟩
  | .getAtt _ _, _ => ⟨⟨trivial, trivial, trivial⟩, trivial⟩
  | .join _ vs, clear => ⟨⟨trivial, itemsJson_finite _ 0 vs clear, trivial⟩, trivial⟩
  | .choose _ a b, clear => by
    obtain ⟨first, second⟩ := List.append_eq_nil_iff.mp clear
    exact ⟨⟨trivial, json_finite _ a first, json_finite _ b second, trivial⟩, trivial⟩
  | .equals a b, clear => by
    obtain ⟨first, second⟩ := List.append_eq_nil_iff.mp clear
    exact ⟨⟨json_finite _ a first, json_finite _ b second, trivial⟩, trivial⟩
  | .base64 v, clear => ⟨json_finite _ v clear, trivial⟩

theorem itemsJson_finite (path : Path) (index : Nat) : ∀ vs : List ResolvedValue,
    itemFaults path index vs = [] → ItemsFinite (itemsJson vs)
  | [], _ => trivial
  | v :: vs, clear => by
    obtain ⟨first, others⟩ := List.append_eq_nil_iff.mp clear
    exact ⟨json_finite _ v first, itemsJson_finite path (index + 1) vs others⟩

theorem membersJson_finite (path : Path) : ∀ vs : List (String × ResolvedValue),
    memberFaults path vs = [] → MembersFinite (membersJson vs)
  | [], _ => trivial
  | (key, v) :: vs, clear => by
    obtain ⟨first, others⟩ := List.append_eq_nil_iff.mp clear
    exact ⟨json_finite _ v first, membersJson_finite path vs others⟩

end

end ResolvedValue

namespace ResolvedDeclaration

theorem conditionMember_finite (condition : Option LogicalId) :
    MembersFinite (Template.conditionMember condition) := by
  cases condition with
  | none => trivial
  | some name => exact ⟨trivial, trivial⟩

theorem dependsOnMember_finite (ids : List LogicalId) :
    MembersFinite (Template.dependsOnMember ids) := by
  have names : ItemsFinite (ids.map (.string ·.text)) := by
    induction ids with
    | nil => trivial
    | cons id ids ih => exact ⟨trivial, ih⟩
  unfold Template.dependsOnMember
  split
  · trivial
  · exact ⟨names, trivial⟩

theorem deletionPolicyMember_finite (policy : Option DeletionPolicy) :
    MembersFinite (Template.deletionPolicyMember policy) := by
  cases policy with
  | none => trivial
  | some policy => exact ⟨trivial, trivial⟩

theorem policyJson_finite {d : ResolvedDeclaration} (clear : d.policyFaults = []) :
    MembersFinite d.policyJson := by
  unfold policyFaults at clear
  unfold policyJson
  cases given : d.updatePolicy with
  | none => trivial
  | some policy =>
    rw [given] at clear
    exact ⟨ResolvedValue.json_finite _ policy clear, trivial⟩

theorem json_finite {d : ResolvedDeclaration} (clear : d.faults = []) : d.json.Finite := by
  unfold faults at clear
  unfold json
  cases given : d.sec with
  | parameter =>
    rw [given] at clear
    exact membersFinite_insertAll ⟨trivial, trivial⟩
      (ResolvedValue.membersJson_finite _ d.attributes clear)
  | condition =>
    rw [given] at clear
    dsimp only at clear ⊢
    cases found : d.expression? with
    | none =>
      rw [found] at clear
      cases clear
    | some expression =>
      rw [found] at clear
      exact ResolvedValue.json_finite _ expression clear
  | resource =>
    rw [given] at clear
    obtain ⟨policy, attributes⟩ := List.append_eq_nil_iff.mp clear
    have properties := ResolvedValue.membersJson_finite _ d.attributes attributes
    change MembersFinite d.resourceMembers
    simp only [resourceMembers, membersFinite_append]
    exact ⟨⟨⟨⟨⟨⟨trivial, trivial⟩, conditionMember_finite d.condition⟩,
      dependsOnMember_finite d.dependsOn⟩, deletionPolicyMember_finite d.deletionPolicy⟩,
      policyJson_finite policy⟩, properties, trivial⟩
  | output =>
    rw [given] at clear
    exact membersFinite_insertAll (conditionMember_finite d.condition)
      (ResolvedValue.membersJson_finite _ d.attributes clear)

end ResolvedDeclaration

namespace ResolvedDocument

theorem json_finite {doc : ResolvedDocument} (clear : doc.faults Section.all = [])
    (options : TemplateOptions) : (doc.json options).Finite := by
  have entries (sec : Section) :
      MembersFinite ((doc.ofSection sec).map fun d => (d.id.text, d.json)) := by
    refine membersFinite_iff.mpr fun entry member => ?_
    obtain ⟨d, held, rfl⟩ := List.mem_map.mp member
    have sections : sec ∈ Section.all := by cases sec <;> decide
    have written := List.flatMap_eq_nil_iff.mp clear sec sections
    exact ResolvedDeclaration.json_finite (List.flatMap_eq_nil_iff.mp written d held)
  refine ⟨trivial, trivial, membersFinite_iff.mpr fun entry member => ?_⟩
  obtain ⟨sec, _, rfl⟩ := List.mem_map.mp member
  have nothing : MembersFinite [] := trivial
  exact membersFinite_insertAll nothing (entries sec)

theorem template_pretty (doc : ResolvedDocument) (options : TemplateOptions) (pretty : Bool) :
    doc.template { options with pretty } = doc.template options := by
  rw [template_eq, template_eq]
  rfl

end ResolvedDocument

namespace Document

-- A document that is assembled has a pretty text and a compact one. Without the blanks outside of
-- its strings the pretty one is the compact one, which has no control characters and so no second
-- line, and both are read as the tree of the template.
theorem assemble_texts {doc : Document} {options : AssemblyOptions} {assembly : Assembly}
    (assembles : doc.assemble options = .ok assembly) :
    ∃ resolved tree pretty compact, doc.resolve options.lint = .ok resolved ∧
      resolved.template options.template = .ok tree ∧
      doc.assemble { options with template.pretty := true } = .ok ⟨pretty, resolved.advisories⟩ ∧
      doc.assemble { options with template.pretty := false } = .ok ⟨compact, resolved.advisories⟩ ∧
      erase false pretty.toList = compact.toList ∧
      (∀ c ∈ compact.toList, 0x20 ≤ c.toNat) ∧
      read pretty.toList = some tree.node ∧ read compact.toList = some tree.node := by
  obtain ⟨resolved, tree, resolves, written, _⟩ := assemble_parts assembles
  have finite : tree.Finite := by
    rw [ResolvedDocument.template_eq, settle_ok, List.head?_eq_none_iff] at written
    obtain ⟨clear, rfl⟩ := written
    exact ResolvedDocument.json_finite clear options.template
  have layout (pretty : Bool) : doc.assemble { options with template.pretty := pretty } =
      .ok ⟨tree.text pretty, resolved.advisories⟩ := by
    have same := (resolved.template_pretty options.template pretty).trans written
    simp [assemble, resolves, same, Except.mapError, bind, Except.bind, pure, Except.pure]
  have indented : Laid tree.lexemes (tree.text true).toList := by
    rw [text, String.toList_ofList]
    exact (pretty_spells 0 tree finite).whole
  have single : Laid tree.lexemes (tree.text false).toList := by
    rw [text, String.toList_ofList]
    exact (compact_spells tree finite).whole
  have line : (tree.text false).toList = tree.lexemes.flatMap Lexeme.text := by
    rw [text, String.toList_ofList]
    exact compact_eq tree
  refine ⟨resolved, tree, tree.text true, tree.text false, resolves, written, layout true,
    layout false, ?_, ?_, read_laid indented, read_laid single⟩
  · rw [indented.erase, line]
  · rw [line]
    exact single.visible

-- A page whose text has all that layout is made of, and the marks that could end it early.
def page : Document := run (.new "test")
  [ .add (.resource "Page" "Custom::Page"
      [("Body", " [ \"a\": \\ ,\n ] "), ("Tags", .list []), ("Names", .map []),
        ("Share", .number (.float ⟨0xbff8000000000000⟩))]) ]

theorem page_texts :
    page.assemble {} = .ok ⟨((page.image []).json {}).text true, []⟩ ∧
    ∃ resolved tree pretty compact, page.resolve {} = .ok resolved ∧
      resolved.template {} = .ok tree ∧
      page.assemble { template.pretty := true } = .ok ⟨pretty, resolved.advisories⟩ ∧
      page.assemble { template.pretty := false } = .ok ⟨compact, resolved.advisories⟩ ∧
      erase false pretty.toList = compact.toList ∧
      (∀ c ∈ compact.toList, 0x20 ≤ c.toNat) ∧
      read pretty.toList = some tree.node ∧ read compact.toList = some tree.node := by
  have reached : page.Reachable := (Reachable.empty "test" _).run _
  have resolves : page.resolve {} = .ok (page.image []) :=
    (resolve_ok reached.sound).mpr ⟨by decide, [], by decide, rfl⟩
  have writable : ∀ d ∈ page.declarations, d.Writable := by decide
  have assembles := assemble_eq {} writable resolves
  exact ⟨assembles, assemble_texts assembles⟩

end Document

end StackTemplate
