import StackTemplate.Proofs.Writing

namespace StackTemplate

namespace ResolvedValue

mutual

def Finite : ResolvedValue → Prop
  | .number (.float x) => x.isFinite = true
  | .list vs => AllFinite vs
  | .map vs => EntriesFinite vs
  | .join _ vs => AllFinite vs
  | .choose _ a b => a.Finite ∧ b.Finite
  | .equals a b => a.Finite ∧ b.Finite
  | .base64 v => v.Finite
  | _ => True

def AllFinite : List ResolvedValue → Prop
  | [] => True
  | v :: vs => v.Finite ∧ AllFinite vs

def EntriesFinite : List (String × ResolvedValue) → Prop
  | [] => True
  | (_, v) :: vs => v.Finite ∧ EntriesFinite vs

end

mutual

theorem faults_finite (path : Path) : ∀ v : ResolvedValue, v.Finite → v.faults path = []
  | .string _, _ => rfl
  | .number (.int _), _ => rfl
  | .number (.float _), finite => if_pos finite
  | .bool _, _ => rfl
  | .list vs, finite => itemFaults_finite path 0 vs finite
  | .map vs, finite => memberFaults_finite path vs finite
  | .ref _, _ => rfl
  | .getAtt _ _, _ => rfl
  | .join _ vs, finite => itemFaults_finite (path.member "Fn::Join") 0 vs finite
  | .choose _ a b, finite => by
    rw [faults, faults_finite _ a finite.1, faults_finite _ b finite.2, List.nil_append]
  | .equals a b, finite => by
    rw [faults, faults_finite _ a finite.1, faults_finite _ b finite.2, List.nil_append]
  | .base64 v, finite => faults_finite (path.member "Fn::Base64") v finite

theorem itemFaults_finite (path : Path) (index : Nat) : ∀ vs : List ResolvedValue,
    AllFinite vs → itemFaults path index vs = []
  | [], _ => rfl
  | v :: vs, finite => by
    rw [itemFaults, faults_finite _ v finite.1, itemFaults_finite path (index + 1) vs finite.2,
      List.nil_append]

theorem memberFaults_finite (path : Path) : ∀ vs : List (String × ResolvedValue),
    EntriesFinite vs → memberFaults path vs = []
  | [], _ => rfl
  | (_, v) :: vs, finite => by
    rw [memberFaults, faults_finite _ v finite.1, memberFaults_finite path vs finite.2,
      List.nil_append]

end

-- The expression that an entry of this key and value is written like when it stands alone.
def called? (function : String) (argument : ResolvedValue) : Option ResolvedValue :=
  match function, argument with
  | "Ref", .string token => some (.ref token)
  | "Fn::GetAtt", .list [.string target, .string name] => some (.getAtt target name)
  | "Fn::Join", .list [.string separator, .list parts] => some (.join separator parts)
  | "Fn::If", .list [.string condition, a, b] => some (.choose condition a b)
  | "Fn::Equals", .list [a, b] => some (.equals a b)
  | "Fn::Base64", v => some (.base64 v)
  | _, _ => none

def ofEntries : List (String × ResolvedValue) → ResolvedValue
  | [(key, v)] => (called? key v).getD (.map [(key, v)])
  | entries => .map entries

mutual

-- The value with all its maps, at any depth, taken for the expressions that they look like.
def canonical : ResolvedValue → ResolvedValue
  | .list vs => .list (canonicalItems vs)
  | .map vs => ofEntries (canonicalEntries vs)
  | .join separator vs => .join separator (canonicalItems vs)
  | .choose condition a b => .choose condition a.canonical b.canonical
  | .equals a b => .equals a.canonical b.canonical
  | .base64 v => .base64 v.canonical
  | .string text => .string text
  | .number n => .number n
  | .bool b => .bool b
  | .ref token => .ref token
  | .getAtt target name => .getAtt target name

def canonicalItems : List ResolvedValue → List ResolvedValue
  | [] => []
  | v :: vs => v.canonical :: canonicalItems vs

def canonicalEntries : List (String × ResolvedValue) → List (String × ResolvedValue)
  | [] => []
  | (key, v) :: vs => (key, v.canonical) :: canonicalEntries vs

end

theorem called?_json {function : String} {argument v : ResolvedValue}
    (called : called? function argument = some v) :
    v.json = Template.call function argument.json := by
  unfold called? at called
  split at called <;> cases called <;> rfl

theorem ofEntries_json (vs : List (String × ResolvedValue)) :
    (ofEntries vs).json = .object (membersJson vs) := by
  unfold ofEntries
  split
  · rename_i key v
    cases called : called? key v with
    | none => rfl
    | some expression => exact called?_json called
  · rfl

mutual

-- The tree does not tell a map from the expression that it looks like.
theorem canonical_json : ∀ v : ResolvedValue, v.canonical.json = v.json
  | .string _ => rfl
  | .number _ => rfl
  | .bool _ => rfl
  | .ref _ => rfl
  | .getAtt _ _ => rfl
  | .list vs => by rw [canonical, json, json, canonicalItems_json vs]
  | .map vs => by rw [canonical, ofEntries_json, canonicalEntries_json vs, json]
  | .join separator vs => by rw [canonical, json, json, canonicalItems_json vs]
  | .choose condition a b => by rw [canonical, json, json, canonical_json a, canonical_json b]
  | .equals a b => by rw [canonical, json, json, canonical_json a, canonical_json b]
  | .base64 v => by rw [canonical, json, json, canonical_json v]

theorem canonicalItems_json : ∀ vs : List ResolvedValue,
    itemsJson (canonicalItems vs) = itemsJson vs
  | [] => rfl
  | v :: vs => by
    rw [canonicalItems, itemsJson, itemsJson, canonical_json v, canonicalItems_json vs]

theorem canonicalEntries_json : ∀ vs : List (String × ResolvedValue),
    membersJson (canonicalEntries vs) = membersJson vs
  | [] => rfl
  | (key, v) :: vs => by
    rw [canonicalEntries, membersJson, membersJson, canonical_json v, canonicalEntries_json vs]

end

end ResolvedValue

namespace Json
open ResolvedValue (ofEntries canonicalItems canonicalEntries itemsJson membersJson)

mutual

-- The value that a tree is the tree of. Whatever looks like an expression is read as one.
def reading : Json → ResolvedValue
  | .string text => .string text
  | .number n => .number n
  | .bool b => .bool b
  | .array items => .list (itemReadings items)
  | .object members => ofEntries (memberReadings members)

def itemReadings : List Json → List ResolvedValue
  | [] => []
  | v :: vs => v.reading :: itemReadings vs

def memberReadings : List (String × Json) → List (String × ResolvedValue)
  | [] => []
  | (key, v) :: vs => (key, v.reading) :: memberReadings vs

end

mutual

theorem reading_json : ∀ v : ResolvedValue, v.json.reading = v.canonical
  | .string _ => rfl
  | .number (.int _) => rfl
  | .number (.float _) => rfl
  | .bool _ => rfl
  | .ref _ => rfl
  | .getAtt _ _ => rfl
  | .list vs => congrArg ResolvedValue.list (reading_items vs)
  | .map vs => congrArg ofEntries (reading_members vs)
  | .join separator vs => congrArg (ResolvedValue.join separator) (reading_items vs)
  | .choose condition a b =>
    congrArg₂ (ResolvedValue.choose condition) (reading_json a) (reading_json b)
  | .equals a b => congrArg₂ ResolvedValue.equals (reading_json a) (reading_json b)
  | .base64 v => congrArg ResolvedValue.base64 (reading_json v)

theorem reading_items : ∀ vs : List ResolvedValue,
    itemReadings (itemsJson vs) = canonicalItems vs
  | [] => rfl
  | v :: vs => congrArg₂ List.cons (reading_json v) (reading_items vs)

theorem reading_members : ∀ vs : List (String × ResolvedValue),
    memberReadings (membersJson vs) = canonicalEntries vs
  | [] => rfl
  | (key, v) :: vs => by
    rw [membersJson, memberReadings, canonicalEntries, reading_json v, reading_members vs]

end

end Json

namespace ResolvedValue

-- Both directions pass through the tree: a reading undoes the writing, and a canonical form is
-- written as the value itself.
theorem json_inj {a b : ResolvedValue} : a.json = b.json ↔ a.canonical = b.canonical := by
  constructor
  · intro same
    rw [← Json.reading_json a, ← Json.reading_json b, same]
  · intro same
    rw [← canonical_json a, ← canonical_json b, same]

theorem canonical_idem (v : ResolvedValue) : v.canonical.canonical = v.canonical :=
  json_inj.mp v.canonical_json

end ResolvedValue

namespace Template

theorem value_finite (path : Path) {v : ResolvedValue} (finite : v.Finite) :
    value path v = .ok v.json := by
  rw [value_eq, v.faults_finite path finite]
  rfl

-- Values of finite numbers are written wherever they stand, and their trees are the same exactly
-- if the values are, up to maps that look like expressions.
theorem value_faithful {a b : ResolvedValue} (finite : a.Finite) (other : b.Finite)
    (here there : Path) :
    ∃ one another, value here a = .ok one ∧ value there b = .ok another ∧
      (one = another ↔ a.canonical = b.canonical) :=
  ⟨a.json, b.json, value_finite here finite, value_finite there other, ResolvedValue.json_inj⟩

-- Two parts put together, as an expression and spelled out in maps. They are written alike, while
-- the two zeros are told apart.
def joined : ResolvedValue := .join "-" [.ref "tagName", .number (.float ⟨0⟩)]

def spelled : ResolvedValue :=
  .map [("Fn::Join", .list [.string "-",
    .list [.map [("Ref", .string "tagName")], .number (.float ⟨0⟩)]])]

def negated : ResolvedValue := .join "-" [.ref "tagName", .number (.float ⟨0x8000000000000000⟩)]

theorem joined_faithful : joined.Finite ∧ spelled.Finite ∧ negated.Finite ∧
    joined.canonical = spelled.canonical ∧ joined.canonical ≠ negated.canonical ∧
    (∃ tree, value ⟨.output, "name", []⟩ joined = .ok tree ∧
      value ⟨.output, "label", []⟩ spelled = .ok tree) ∧
    ∃ one another, value ⟨.output, "name", []⟩ joined = .ok one ∧
      value ⟨.output, "label", []⟩ negated = .ok another ∧ one ≠ another := by
  have zero : (Binary64.mk 0).isFinite = true := by decide
  have below : (Binary64.mk 0x8000000000000000).isFinite = true := by decide
  have finite : joined.Finite := ⟨trivial, zero, trivial⟩
  have maps : spelled.Finite := ⟨⟨trivial, ⟨⟨trivial, trivial⟩, zero, trivial⟩, trivial⟩, trivial⟩
  have other : negated.Finite := ⟨trivial, below, trivial⟩
  have alike : joined.canonical = spelled.canonical := rfl
  have apart : joined.canonical ≠ negated.canonical := by
    simp [joined, negated, ResolvedValue.canonical, ResolvedValue.canonicalItems]
  obtain ⟨one, two, first, second, same⟩ :=
    value_faithful finite maps ⟨.output, "name", []⟩ ⟨.output, "label", []⟩
  obtain ⟨three, four, third, fourth, differ⟩ :=
    value_faithful finite other ⟨.output, "name", []⟩ ⟨.output, "label", []⟩
  refine ⟨finite, maps, other, alike, apart, ⟨one, first, ?_⟩, three, four, third, fourth, ?_⟩
  · rw [same.mpr alike]
    exact second
  · intro equal
    exact apart (differ.mp equal)

end Template

end StackTemplate
