import StackTemplate.Proofs.Layout
import StackTemplate.Proofs.Occurrence

namespace StackTemplate

namespace Json

inductive Within (node : Json) : Json → Prop where
  | here : Within node node
  | item {items : List Json} {v : Json} (member : v ∈ items) (inside : Within node v) :
      Within node (.array items)
  | member {members : List (String × Json)} {key : String} {v : Json}
      (member : (key, v) ∈ members) (inside : Within node v) : Within node (.object members)

-- Strings and arrays carry no meaning of their own: they may be operands and lists of operands.
def Scaffold : Json → Prop
  | .string _ => True
  | .array _ => True
  | _ => False

theorem within_string {node : Json} {text : String} (inside : node.Within (.string text)) :
    node.Scaffold := by
  cases inside with
  | here => trivial

theorem within_array {node : Json} {items : List Json} (inside : node.Within (.array items)) :
    node.Scaffold ∨ ∃ v ∈ items, node.Within v := by
  cases inside with
  | here => exact .inl trivial
  | item member inside => exact .inr ⟨_, member, inside⟩

theorem within_pair {node left right : Json} (inside : node.Within (.array [left, right])) :
    node.Scaffold ∨ node.Within left ∨ node.Within right := by
  rcases within_array inside with plain | ⟨v, member, operand⟩
  · exact .inl plain
  · rcases List.mem_pair.mp member with rfl | rfl
    · exact .inr (.inl operand)
    · exact .inr (.inr operand)

theorem within_call {node argument : Json} {function : String}
    (inside : node.Within (Template.call function argument)) :
    node = Template.call function argument ∨ node.Within argument := by
  cases inside with
  | here => exact .inl rfl
  | member member inside =>
    cases List.mem_singleton.mp member
    exact .inr inside

end Json

namespace Value

def Writes (v : Value) (node : Json) : Prop :=
  (∃ w : Value, w.Within v ∧ node = w.image.json) ∨ node.Scaffold

theorem Writes.widen {part whole : Value} {node : Json} (writes : part.Writes node)
    (wider : ∀ w : Value, w.Within part → w.Within whole) : whole.Writes node :=
  writes.imp_left fun ⟨w, inside, written⟩ => ⟨w, wider w inside, written⟩

theorem Writes.self (v : Value) : v.Writes v.image.json := .inl ⟨v, .here, rfl⟩

mutual

theorem origin {node : Json} : ∀ v : Value, node.Within v.image.json → v.Writes node
  | .string _, inside => .inr (Json.within_string inside)
  | .number (.int _), inside => by cases inside; exact Writes.self _
  | .number (.float _), inside => by cases inside; exact Writes.self _
  | .bool _, inside => by cases inside; exact Writes.self _
  | .ref target, inside => by
    rcases Json.within_call inside with rfl | operand
    · exact Writes.self (.ref target)
    · exact .inr (Json.within_string operand)
  | .pseudo parameter, inside => by
    rcases Json.within_call inside with rfl | operand
    · exact Writes.self (.pseudo parameter)
    · exact .inr (Json.within_string operand)
  | .getAtt target name, inside => by
    rcases Json.within_call inside with rfl | operands
    · exact Writes.self (.getAtt target name)
    · rcases Json.within_pair operands with plain | first | second
      · exact .inr plain
      · exact .inr (Json.within_string first)
      · exact .inr (Json.within_string second)
  | .list vs, inside => by
    rcases Json.within_array inside with plain | ⟨j, member, inner⟩
    · exact .inr plain
    · obtain ⟨v, given, writes⟩ := items_origin vs member inner
      exact writes.widen fun w => .item given
  | .map vs, inside => by
    cases inside with
    | here => exact Writes.self (.map vs)
    | member member inner =>
      obtain ⟨entry, given, writes⟩ := entries_origin vs member inner
      exact writes.widen fun w => .entry given
  | .join separator vs, inside => by
    rcases Json.within_call inside with rfl | operands
    · exact Writes.self (.join separator vs)
    · rcases Json.within_pair operands with plain | text | parts
      · exact .inr plain
      · exact .inr (Json.within_string text)
      · rcases Json.within_array parts with plain | ⟨j, member, inner⟩
        · exact .inr plain
        · obtain ⟨v, given, writes⟩ := items_origin vs member inner
          exact writes.widen fun w => .part given
  | .choose condition a b, inside => by
    rcases Json.within_call inside with rfl | operands
    · exact Writes.self (.choose condition a b)
    · rcases Json.within_array operands with plain | ⟨j, member, operand⟩
      · exact .inr plain
      · simp only [List.mem_cons, List.not_mem_nil, or_false] at member
        rcases member with rfl | rfl | rfl
        · exact .inr (Json.within_string operand)
        · exact (origin a operand).widen fun w => .whenTrue
        · exact (origin b operand).widen fun w => .whenFalse
  | .equals a b, inside => by
    rcases Json.within_call inside with rfl | operands
    · exact Writes.self (.equals a b)
    · rcases Json.within_pair operands with plain | left | right
      · exact .inr plain
      · exact (origin a left).widen fun w => .left
      · exact (origin b right).widen fun w => .right
  | .base64 v, inside => by
    rcases Json.within_call inside with rfl | operand
    · exact Writes.self (.base64 v)
    · exact (origin v operand).widen fun w => .encoded

theorem items_origin {node : Json} : ∀ (vs : List Value) {j : Json},
    j ∈ ResolvedValue.itemsJson (itemImages vs) → node.Within j → ∃ v ∈ vs, v.Writes node
  | v :: vs, j, member, inside => by
    rcases List.mem_cons.mp member with rfl | later
    · exact ⟨v, List.mem_cons_self, origin v inside⟩
    · obtain ⟨other, given, writes⟩ := items_origin vs later inside
      exact ⟨other, List.mem_cons_of_mem _ given, writes⟩

theorem entries_origin {node : Json} : ∀ (vs : List (String × Value)) {key : String} {j : Json},
    (key, j) ∈ ResolvedValue.membersJson (entryImages vs) → node.Within j →
    ∃ entry ∈ vs, entry.2.Writes node
  | (k, v) :: vs, key, j, member, inside => by
    rcases List.mem_cons.mp member with same | later
    · cases same
      exact ⟨(k, v), List.mem_cons_self, origin v inside⟩
    · obtain ⟨other, given, writes⟩ := entries_origin vs later inside
      exact ⟨other, List.mem_cons_of_mem _ given, writes⟩

end

end Value

namespace Declaration

inductive Writes (doc : Document) (d : Declaration) (node : Json) : Prop where
  -- The entry of a condition is the writing of its expression, if it has one.
  | entry (whole : node = (d.image doc).json) (empty : d.sec = .condition → node = .object [])
  | properties (resource : d.sec = .resource) (object : node = (Value.map d.attributes).image.json)
  | value {v : Value} (holds : d.Holds v) (written : node = v.image.json)
  | scaffold (plain : node.Scaffold)

theorem attribute_origin (doc : Document) {d : Declaration} {node j : Json} {key : String}
    (member : (key, j) ∈ ResolvedValue.membersJson (d.image doc).attributes)
    (inside : node.Within j) : d.Writes doc node := by
  obtain ⟨entry, given, writes⟩ := Value.entries_origin d.attributes member inside
  rcases writes with ⟨w, part, written⟩ | plain
  · exact .value (.inl ⟨entry, given, part⟩) written
  · exact .scaffold plain

theorem policy_origin (doc : Document) {d : Declaration} {node j : Json} {key : String}
    (member : (key, j) ∈ (d.image doc).policyJson) (inside : node.Within j) :
    d.Writes doc node := by
  cases given : d.updatePolicy with
  | none => simp [ResolvedDeclaration.policyJson, image, given] at member
  | some policy =>
    simp only [ResolvedDeclaration.policyJson, image, given, Option.map_some,
      List.mem_singleton, Prod.mk.injEq] at member
    obtain ⟨-, rfl⟩ := member
    rcases Value.origin policy inside with ⟨w, part, written⟩ | plain
    · exact .value (.inr ⟨policy, given, part⟩) written
    · exact .scaffold plain

theorem condition_scaffold (condition : Option LogicalId) {node j : Json} {key : String}
    (member : (key, j) ∈ Template.conditionMember condition) (inside : node.Within j) :
    node.Scaffold := by
  cases condition with
  | none => cases member
  | some name =>
    cases List.mem_singleton.mp member
    exact Json.within_string inside

-- The settings of a declaration are written as strings and arrays of strings.
theorem settings_scaffold (r : ResolvedDeclaration) {node j : Json} {key : String}
    (member : (key, j) ∈ [("Type", Json.string r.kind)] ++ Template.conditionMember r.condition
      ++ Template.dependsOnMember r.dependsOn ++ Template.deletionPolicyMember r.deletionPolicy)
    (inside : node.Within j) : node.Scaffold := by
  simp only [List.mem_append] at member
  rcases member with ((kind | condition) | dependsOn) | deletion
  · cases List.mem_singleton.mp kind
    exact Json.within_string inside
  · exact condition_scaffold r.condition condition inside
  · rw [Template.dependsOnMember] at dependsOn
    split at dependsOn
    · cases dependsOn
    · cases List.mem_singleton.mp dependsOn
      rcases Json.within_array inside with plain | ⟨v, listed, item⟩
      · exact plain
      · obtain ⟨id, _, rfl⟩ := List.mem_map.mp listed
        exact Json.within_string item
  · cases given : r.deletionPolicy with
    | none => simp [Template.deletionPolicyMember, given] at deletion
    | some policy =>
      rw [given] at deletion
      cases List.mem_singleton.mp deletion
      exact Json.within_string inside

theorem resource_origin (doc : Document) {d : Declaration} (resource : d.sec = .resource)
    {node j : Json} {key : String} (member : (key, j) ∈ (d.image doc).resourceMembers)
    (inside : node.Within j) : d.Writes doc node := by
  rw [ResolvedDeclaration.resourceMembers] at member
  rcases List.mem_append.mp member with earlier | properties
  · rcases List.mem_append.mp earlier with settings | policy
    · exact .scaffold (settings_scaffold _ settings inside)
    · exact policy_origin doc policy inside
  · cases List.mem_singleton.mp properties
    cases inside with
    | here => exact .properties resource rfl
    | member member inside => exact attribute_origin doc member inside

-- Settings and attributes of parameters and outputs share one object.
theorem shared_origin (doc : Document) {d : Declaration} (other : d.sec ≠ .condition)
    {node : Json} {settings : Entries Json}
    (plain : ∀ key j, (key, j) ∈ settings → node.Within j → node.Scaffold)
    (inside : node.Within (.object (Entries.insertAll settings
      (ResolvedValue.membersJson (d.image doc).attributes))))
    (whole : (d.image doc).json = .object (Entries.insertAll settings
      (ResolvedValue.membersJson (d.image doc).attributes))) : d.Writes doc node := by
  cases inside with
  | here => exact .entry whole.symm fun condition => absurd condition other
  | member member inside =>
    rcases Entries.mem_insertAll member with setting | valued
    · exact .scaffold (plain _ _ setting inside)
    · exact attribute_origin doc valued inside

theorem expression_origin (doc : Document) {d : Declaration} (condition : d.sec = .condition)
    {node : Json} (inside : node.Within (d.image doc).json) : d.Writes doc node := by
  have found : (d.image doc).expression? = (d.attribute? expressionKey).map Value.image := by
    rw [ResolvedDeclaration.expression?, image, Value.find?_entryImages]
    rfl
  have sec : (d.image doc).sec = .condition := condition
  cases given : d.attribute? expressionKey with
  | none =>
    have empty : (d.image doc).json = .object [] := by
      rw [ResolvedDeclaration.json, sec]
      simp [found, given]
    rw [empty] at inside
    cases inside with
    | here => exact .entry empty.symm fun _ => rfl
    | member member _ => cases member
  | some v =>
    have written : (d.image doc).json = v.image.json := by
      rw [ResolvedDeclaration.json, sec]
      simp [found, given]
    rw [written] at inside
    rcases Value.origin v inside with ⟨w, part, written⟩ | plain
    · exact .value (.inl ⟨_, Entries.mem_of_find? given, part⟩) written
    · exact .scaffold plain

theorem entry_origin (doc : Document) {d : Declaration} {node : Json}
    (inside : node.Within (d.image doc).json) : d.Writes doc node := by
  have sec : (d.image doc).sec = d.sec := rfl
  cases given : d.sec with
  | parameter =>
    have whole : (d.image doc).json = .object (Entries.insertAll [("Type", .string d.kind)]
        (ResolvedValue.membersJson (d.image doc).attributes)) := by
      rw [ResolvedDeclaration.json, sec, given]
      rfl
    refine shared_origin doc (by simp [given]) ?_ (whole ▸ inside) whole
    intro key j member inside
    cases List.mem_singleton.mp member
    exact Json.within_string inside
  | condition => exact expression_origin doc given inside
  | resource =>
    have whole : (d.image doc).json = .object (d.image doc).resourceMembers := by
      rw [ResolvedDeclaration.json, sec, given]
      rfl
    rw [whole] at inside
    cases inside with
    | here => exact .entry whole.symm fun condition => by simp [given] at condition
    | member member inside => exact resource_origin doc given member inside
  | output =>
    have whole : (d.image doc).json = .object (Entries.insertAll
        (Template.conditionMember (d.image doc).condition)
        (ResolvedValue.membersJson (d.image doc).attributes)) := by
      rw [ResolvedDeclaration.json, sec, given]
    exact shared_origin doc (by simp [given]) (fun key j => condition_scaffold _)
      (whole ▸ inside) whole

end Declaration

end StackTemplate
