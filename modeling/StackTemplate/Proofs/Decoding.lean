import StackTemplate.Proofs.Precedence

namespace StackTemplate

namespace Pseudo

def ofToken? (token : String) : Option Pseudo := all.find? (·.token = token)

theorem ofToken?_token (parameter : Pseudo) : ofToken? parameter.token = some parameter := by
  cases parameter <;> rfl

theorem token_improper (parameter : Pseudo) : ¬ LogicalId.Proper ⟨parameter.token⟩ := by
  rw [← LogicalId.isValid_iff]
  cases parameter <;> decide

theorem ofToken?_proper {id : LogicalId} (proper : id.Proper) : ofToken? id.text = none := by
  refine List.find?_eq_none.mpr fun parameter _ same => ?_
  exact parameter.token_improper (of_decide_eq_true same ▸ proper)

end Pseudo

mutual

-- The value that a node stands for. A token that no pseudo parameter has is a logical id.
def ResolvedValue.decode : ResolvedValue → Value
  | .string text => .string text
  | .number n => .number n
  | .bool b => .bool b
  | .list vs => .list (ResolvedValue.decodeItems vs)
  | .map vs => .map (ResolvedValue.decodeEntries vs)
  | .ref token =>
    match Pseudo.ofToken? token with
    | some parameter => .pseudo parameter
    | none => .ref ⟨token⟩
  | .getAtt target name => .getAtt ⟨target⟩ name
  | .join separator vs => .join separator (ResolvedValue.decodeItems vs)
  | .choose condition a b => .choose ⟨condition⟩ a.decode b.decode
  | .equals a b => .equals a.decode b.decode
  | .base64 v => .base64 v.decode

def ResolvedValue.decodeItems : List ResolvedValue → List Value
  | [] => []
  | v :: vs => v.decode :: ResolvedValue.decodeItems vs

def ResolvedValue.decodeEntries : List (String × ResolvedValue) → List (String × Value)
  | [] => []
  | (key, v) :: vs => (key, v.decode) :: ResolvedValue.decodeEntries vs

end

theorem ResolvedValue.decodeEntries_eq (vs : List (String × ResolvedValue)) :
    decodeEntries vs = vs.map fun entry => (entry.1, entry.2.decode) := by
  induction vs with
  | nil => rfl
  | cons entry vs ih => rw [decodeEntries, ih, List.map_cons]

namespace Value
open ResolvedValue (decode decodeItems decodeEntries)

theorem decode_ref {id : LogicalId} (proper : id.Proper) : decode (.ref id.text) = .ref id := by
  rw [decode, Pseudo.ofToken?_proper proper]

theorem decode_pseudo (parameter : Pseudo) : decode (.ref parameter.token) = .pseudo parameter := by
  rw [decode, Pseudo.ofToken?_token]

mutual

-- Only what is named has to be proper; the texts of a value may be anything, tokens included.
theorem decode_image : ∀ v : Value, (∀ edge ∈ v.edges, edge.target.Proper) → v.image.decode = v
  | .string _, _ => rfl
  | .number _, _ => rfl
  | .bool _, _ => rfl
  | .getAtt _ _, _ => rfl
  | .ref _, proper => decode_ref (proper _ (List.mem_singleton_self _))
  | .pseudo parameter, _ => decode_pseudo parameter
  | .list vs, proper => by rw [image, decode, decode_items vs proper]
  | .map vs, proper => by rw [image, decode, decode_entries vs proper]
  | .join separator vs, proper => by rw [image, decode, decode_items vs proper]
  | .choose condition a b, proper => by
    obtain ⟨_, operands⟩ := List.forall_mem_cons.mp proper
    obtain ⟨first, second⟩ := List.forall_mem_append.mp operands
    rw [image, decode, decode_image a first, decode_image b second]
  | .equals a b, proper => by
    obtain ⟨first, second⟩ := List.forall_mem_append.mp proper
    rw [image, decode, decode_image a first, decode_image b second]
  | .base64 v, proper => by rw [image, decode, decode_image v proper]

theorem decode_items : ∀ vs : List Value, (∀ edge ∈ itemEdges vs, edge.target.Proper) →
    decodeItems (itemImages vs) = vs
  | [], _ => rfl
  | v :: vs, proper => by
    obtain ⟨first, others⟩ := List.forall_mem_append.mp proper
    rw [itemImages, decodeItems, decode_image v first, decode_items vs others]

theorem decode_entries : ∀ vs : List (String × Value),
    (∀ edge ∈ entryEdges vs, edge.target.Proper) → decodeEntries (entryImages vs) = vs
  | [], _ => rfl
  | (_, v) :: vs, proper => by
    obtain ⟨first, others⟩ := List.forall_mem_append.mp proper
    rw [entryImages, decodeEntries, decode_image v first, decode_entries vs others]

end

def ResolvesTo (doc : Document) (v : Value) (r : ResolvedValue) : Prop :=
  ∃ position owner uses, doc.declarations[position]? = some owner ∧
    Scope.value ⟨doc, owner, position⟩ v = .ok (r, uses)

end Value

-- Everything about a declaration can be read off its resolved form.
structure ResolvedDeclaration.Keeps (d : Declaration) (r : ResolvedDeclaration) : Prop where
  id : r.id = d.id
  sec : r.sec = d.sec
  kind : r.kind = d.kind
  keys : Entries.keys r.attributes = Entries.keys d.attributes
  condition : r.condition = d.condition
  deletionPolicy : r.deletionPolicy = d.deletionPolicy
  attributes : r.attributes.map (fun entry => (entry.1, entry.2.decode)) = d.attributes
  updatePolicy : r.updatePolicy.map ResolvedValue.decode = d.updatePolicy

namespace Document

-- What can be named is declared, and what is declared has a proper name.
theorem judge_proper {doc : Document} (sound : doc.Sound) {d : Declaration}
    (member : d ∈ doc.declarations) {edge : Edge} (clear : doc.judge d.id edge = none) :
    edge.target.Proper := by
  obtain ⟨t, declared, named, _⟩ := (judge_none sound member clear).declared
  exact named ▸ sound.proper t.id (List.mem_map_of_mem declared)

theorem resolvesTo_image {doc : Document} (sound : doc.Sound) {v : Value} {r : ResolvedValue}
    (resolves : v.ResolvesTo doc r) :
    r = v.image ∧ ∀ edge ∈ v.edges, edge.target.Proper := by
  obtain ⟨position, owner, uses, here, done⟩ := resolves
  rw [Scope.value_eq ⟨sound, here⟩, settle_ok, Prod.mk.injEq] at done
  obtain ⟨clear, written, _⟩ := done
  refine ⟨written.symm, fun edge named => ?_⟩
  exact judge_proper sound (List.mem_of_getElem? here)
    (List.findSome?_eq_none_iff.mp clear edge named)

theorem resolvesTo_decode {doc : Document} (sound : doc.Sound) {v : Value} {r : ResolvedValue}
    (resolves : v.ResolvesTo doc r) : r.decode = v := by
  obtain ⟨rfl, proper⟩ := resolvesTo_image sound resolves
  exact v.decode_image proper

theorem image_keeps {doc : Document} {d : Declaration}
    (proper : ∀ edge ∈ d.edges, edge.target.Proper) : (d.image doc).Keeps d := by
  have valued : ∀ edge ∈ d.valueEdges, edge.target.Proper :=
    fun edge named => proper edge (Declaration.mem_edges.mpr (.inl named))
  obtain ⟨attributes, policy⟩ := List.forall_mem_append.mp valued
  have decoded : (d.image doc).attributes.map (fun entry => (entry.1, entry.2.decode)) =
      d.attributes := by
    rw [← ResolvedValue.decodeEntries_eq]
    exact Value.decode_entries d.attributes attributes
  refine ⟨rfl, rfl, rfl, ?_, rfl, rfl, decoded, ?_⟩
  · rw [← decoded, Entries.keys, Entries.keys, List.map_map]
    rfl
  · cases given : d.updatePolicy with
    | none => simp [Declaration.image, given]
    | some v =>
      rw [given] at policy
      simpa [Declaration.image, given] using v.decode_image policy

-- Decoding undoes resolution, of single values and of whole declarations. One node therefore comes
-- from one value only, even across documents, and no reference looks like a pseudo parameter.
theorem resolve_decodes {doc : Document} (reached : doc.Reachable) :
    (∀ v r, Value.ResolvesTo doc v r → r.decode = v) ∧
    (∀ other : Document, other.Reachable → ∀ v w r, Value.ResolvesTo doc v r →
      Value.ResolvesTo other w r → v = w) ∧
    (∀ options resolved, doc.resolve options = .ok resolved →
      List.Forall₂ (fun d r => r.Keeps d) doc.declarations resolved.declarations) ∧
    ∀ id r, Value.ResolvesTo doc (.ref id) r → ∀ parameter : Pseudo, r ≠ .ref parameter.token := by
  have sound := reached.sound
  refine ⟨fun v r => resolvesTo_decode sound, ?_, ?_, ?_⟩
  · intro other reachable v w r first second
    rw [← resolvesTo_decode sound first, resolvesTo_decode reachable.sound second]
  · intro options resolved resolves
    refine resolve_forall sound resolves fun d member clear => ?_
    exact image_keeps fun edge named => judge_proper sound member (clear edge named)
  · rintro id r resolves parameter rfl
    have decoded := resolvesTo_decode sound resolves
    rw [Value.decode_pseudo] at decoded
    cases decoded

-- A parameter called as a pseudo parameter is, but for the colons.
def mingled : Document := run (.new "test")
  [ .add (.parameter "AWSRegion" .string),
    .add (.resource "Bucket" "AWS::S3::Bucket"
      [("Where", .map [("Set", .ref "AWSRegion"), ("Real", .pseudo .region), ("Text", "AWS::Region")])]) ]

theorem mingled_decodes : mingled.Reachable ∧
    mingled.resolve ⟨.allow, .allow⟩ = .ok (mingled.image []) ∧
    List.Forall₂ (fun d r => r.Keeps d) mingled.declarations (mingled.image []).declarations ∧
    Value.ResolvesTo mingled (.list [.ref "AWSRegion", .pseudo .region])
      (.list [.ref "AWSRegion", .ref "AWS::Region"]) ∧
    ResolvedValue.decode (.list [.ref "AWSRegion", .ref "AWS::Region"]) =
      .list [.ref "AWSRegion", .pseudo .region] ∧
    (∀ v, Value.ResolvesTo mingled v (.list [.ref "AWSRegion", .ref "AWS::Region"]) →
      v = .list [.ref "AWSRegion", .pseudo .region]) ∧
    Value.ResolvesTo mingled (.ref "AWSRegion") (.ref "AWSRegion") ∧
    ResolvedValue.ref "AWSRegion" ≠ .ref Pseudo.region.token := by
  have reached : mingled.Reachable := (Reachable.empty "test" _).run _
  have resolves : mingled.resolve ⟨.allow, .allow⟩ = .ok (mingled.image []) :=
    (resolve_ok reached.sound).mpr ⟨by decide, [], rfl, rfl⟩
  have node : Value.ResolvesTo mingled (.list [.ref "AWSRegion", .pseudo .region])
      (.list [.ref "AWSRegion", .ref "AWS::Region"]) := ⟨1, _, _, rfl, rfl⟩
  have single : Value.ResolvesTo mingled (.ref "AWSRegion") (.ref "AWSRegion") :=
    ⟨1, _, _, rfl, rfl⟩
  obtain ⟨decodes, unique, keeps, apart⟩ := resolve_decodes reached
  exact ⟨reached, resolves, keeps _ _ resolves, node, decodes _ _ node,
    fun v other => unique mingled reached _ _ _ other node, single, apart _ _ single .region⟩

end Document

end StackTemplate
