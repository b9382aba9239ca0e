import StackTemplate.Proofs.Verdict

namespace StackTemplate

inductive Value.Within (node : Value) : Value → Prop where
  | here : Within node node
  | item {items : List Value} {v : Value} (member : v ∈ items) (inside : Within node v) :
      Within node (.list items)
  | entry {entries : List (String × Value)} {key : String} {v : Value} (member : (key, v) ∈ entries)
      (inside : Within node v) : Within node (.map entries)
  | part {separator : String} {parts : List Value} {v : Value} (member : v ∈ parts)
      (inside : Within node v) : Within node (.join separator parts)
  | whenTrue {condition : LogicalId} {a b : Value} (inside : Within node a) :
      Within node (.choose condition a b)
  | whenFalse {condition : LogicalId} {a b : Value} (inside : Within node b) :
      Within node (.choose condition a b)
  | left {a b : Value} (inside : Within node a) : Within node (.equals a b)
  | right {a b : Value} (inside : Within node b) : Within node (.equals a b)
  | encoded {v : Value} (inside : Within node v) : Within node (.base64 v)

namespace Value

-- What a node names by itself; operands do not count.
def edge? : Value → Option Edge
  | .ref target => some ⟨.ref, target⟩
  | .getAtt target _ => some ⟨.getAtt, target⟩
  | .choose condition _ _ => some ⟨.choose, condition⟩
  | _ => none

mutual

def nodes : Value → List Value
  | .list vs => .list vs :: itemNodes vs
  | .map vs => .map vs :: entryNodes vs
  | .join separator vs => .join separator vs :: itemNodes vs
  | .choose condition a b => .choose condition a b :: (a.nodes ++ b.nodes)
  | .equals a b => .equals a b :: (a.nodes ++ b.nodes)
  | .base64 v => .base64 v :: v.nodes
  | v => [v]

def itemNodes : List Value → List Value
  | [] => []
  | v :: vs => v.nodes ++ itemNodes vs

def entryNodes : List (String × Value) → List Value
  | [] => []
  | (_, v) :: vs => v.nodes ++ entryNodes vs

end

theorem itemNodes_eq (vs : List Value) : itemNodes vs = vs.flatMap nodes := by
  induction vs with
  | nil => rfl
  | cons v vs ih => rw [itemNodes, ih, List.flatMap_cons]

theorem entryNodes_eq (vs : List (String × Value)) :
    entryNodes vs = vs.flatMap fun entry => entry.2.nodes := by
  induction vs with
  | nil => rfl
  | cons entry vs ih => rw [entryNodes, ih, List.flatMap_cons]

theorem nodes_of_within {node v : Value} (inside : node.Within v) : node ∈ v.nodes := by
  induction inside with
  | here => cases node <;> simp [nodes]
  | item member _ ih =>
    rw [nodes, itemNodes_eq]
    exact List.mem_cons_of_mem _ (List.mem_flatMap_of_mem member ih)
  | entry member _ ih =>
    rw [nodes, entryNodes_eq]
    exact List.mem_cons_of_mem _ (List.mem_flatMap_of_mem member ih)
  | part member _ ih =>
    rw [nodes, itemNodes_eq]
    exact List.mem_cons_of_mem _ (List.mem_flatMap_of_mem member ih)
  | whenTrue _ ih => simp [nodes, ih]
  | whenFalse _ ih => simp [nodes, ih]
  | left _ ih => simp [nodes, ih]
  | right _ ih => simp [nodes, ih]
  | encoded _ ih => simp [nodes, ih]

mutual

theorem within_of_nodes {node : Value} : ∀ v : Value, node ∈ v.nodes → node.Within v
  | .string _, member => List.mem_singleton.mp member ▸ .here
  | .number _, member => List.mem_singleton.mp member ▸ .here
  | .bool _, member => List.mem_singleton.mp member ▸ .here
  | .pseudo _, member => List.mem_singleton.mp member ▸ .here
  | .ref _, member => List.mem_singleton.mp member ▸ .here
  | .getAtt _ _, member => List.mem_singleton.mp member ▸ .here
  | .list vs, member => by
    rcases List.mem_cons.mp member with rfl | below
    · exact .here
    · obtain ⟨v, listed, inside⟩ := within_of_itemNodes vs below
      exact .item listed inside
  | .map vs, member => by
    rcases List.mem_cons.mp member with rfl | below
    · exact .here
    · obtain ⟨entry, listed, inside⟩ := within_of_entryNodes vs below
      exact .entry listed inside
  | .join _ vs, member => by
    rcases List.mem_cons.mp member with rfl | below
    · exact .here
    · obtain ⟨v, listed, inside⟩ := within_of_itemNodes vs below
      exact .part listed inside
  | .choose _ a b, member => by
    rcases List.mem_cons.mp member with rfl | below
    · exact .here
    · rcases List.mem_append.mp below with first | second
      · exact .whenTrue (within_of_nodes a first)
      · exact .whenFalse (within_of_nodes b second)
  | .equals a b, member => by
    rcases List.mem_cons.mp member with rfl | below
    · exact .here
    · rcases List.mem_append.mp below with first | second
      · exact .left (within_of_nodes a first)
      · exact .right (within_of_nodes b second)
  | .base64 v, member => by
    rcases List.mem_cons.mp member with rfl | below
    · exact .here
    · exact .encoded (within_of_nodes v below)

theorem within_of_itemNodes {node : Value} : ∀ vs : List Value, node ∈ itemNodes vs →
    ∃ v ∈ vs, node.Within v
  | v :: vs, member => by
    rcases List.mem_append.mp member with first | later
    · exact ⟨v, List.mem_cons_self, within_of_nodes v first⟩
    · obtain ⟨other, listed, inside⟩ := within_of_itemNodes vs later
      exact ⟨other, List.mem_cons_of_mem _ listed, inside⟩

theorem within_of_entryNodes {node : Value} : ∀ vs : List (String × Value),
    node ∈ entryNodes vs → ∃ entry ∈ vs, node.Within entry.2
  | (key, v) :: vs, member => by
    rcases List.mem_append.mp member with first | later
    · exact ⟨(key, v), List.mem_cons_self, within_of_nodes v first⟩
    · obtain ⟨other, listed, inside⟩ := within_of_entryNodes vs later
      exact ⟨other, List.mem_cons_of_mem _ listed, inside⟩

end

theorem mem_nodes {node v : Value} : node ∈ v.nodes ↔ node.Within v :=
  ⟨within_of_nodes v, nodes_of_within⟩

mutual

-- What a value names is what its nodes name, in their order.
theorem edges_nodes : ∀ v : Value, v.edges = v.nodes.filterMap edge?
  | .string _ => rfl
  | .number _ => rfl
  | .bool _ => rfl
  | .pseudo _ => rfl
  | .ref _ => rfl
  | .getAtt _ _ => rfl
  | .list vs => itemEdges_nodes vs
  | .map vs => entryEdges_nodes vs
  | .join _ vs => itemEdges_nodes vs
  | .choose _ a b => by
    rw [edges, nodes, List.filterMap_cons, List.filterMap_append, edges_nodes a, edges_nodes b]
    rfl
  | .equals a b => by
    rw [edges, nodes, List.filterMap_cons, List.filterMap_append, edges_nodes a, edges_nodes b]
    rfl
  | .base64 v => edges_nodes v

theorem itemEdges_nodes : ∀ vs : List Value, itemEdges vs = (itemNodes vs).filterMap edge?
  | [] => rfl
  | v :: vs => by
    rw [itemEdges, itemNodes, List.filterMap_append, edges_nodes v, itemEdges_nodes vs]

theorem entryEdges_nodes : ∀ vs : List (String × Value),
    entryEdges vs = (entryNodes vs).filterMap edge?
  | [] => rfl
  | (_, v) :: vs => by
    rw [entryEdges, entryNodes, List.filterMap_append, edges_nodes v, entryEdges_nodes vs]

end

theorem mem_edges {v : Value} {edge : Edge} :
    edge ∈ v.edges ↔ ∃ node : Value, node.Within v ∧ node.edge? = some edge := by
  rw [edges_nodes, List.mem_filterMap]
  simp only [mem_nodes]

end Value

namespace Declaration

-- The node stands somewhere in the attributes or in the update policy.
def Holds (d : Declaration) (node : Value) : Prop :=
  (∃ entry ∈ d.attributes, node.Within entry.2) ∨
    ∃ policy, d.updatePolicy = some policy ∧ node.Within policy

theorem mem_valueEdges {d : Declaration} {edge : Edge} :
    edge ∈ d.valueEdges ↔ ∃ node, d.Holds node ∧ node.edge? = some edge := by
  unfold valueEdges
  rw [List.mem_append, Value.entryEdges_eq, List.mem_flatMap]
  constructor
  · rintro (⟨entry, member, valued⟩ | policy)
    · obtain ⟨node, inside, names⟩ := Value.mem_edges.mp valued
      exact ⟨node, .inl ⟨entry, member, inside⟩, names⟩
    · cases given : d.updatePolicy with
      | none => simp [given] at policy
      | some v =>
        rw [given] at policy
        obtain ⟨node, inside, names⟩ := Value.mem_edges.mp policy
        exact ⟨node, .inr ⟨v, given, inside⟩, names⟩
  · rintro ⟨node, ⟨entry, member, inside⟩ | ⟨v, given, inside⟩, names⟩
    · exact .inl ⟨entry, member, Value.mem_edges.mpr ⟨node, inside, names⟩⟩
    · right
      rw [given]
      exact Value.mem_edges.mpr ⟨node, inside, names⟩

theorem holds_ref {d : Declaration} {id : LogicalId} :
    d.Holds (.ref id) ↔ ⟨.ref, id⟩ ∈ d.valueEdges := by
  rw [mem_valueEdges]
  constructor
  · exact fun holds => ⟨_, holds, rfl⟩
  · rintro ⟨node, holds, names⟩
    cases node <;> cases names
    exact holds

theorem holds_getAtt {d : Declaration} {id : LogicalId} :
    (∃ name, d.Holds (.getAtt id name)) ↔ ⟨.getAtt, id⟩ ∈ d.valueEdges := by
  rw [mem_valueEdges]
  constructor
  · exact fun ⟨_, holds⟩ => ⟨_, holds, rfl⟩
  · rintro ⟨node, holds, names⟩
    cases node <;> cases names
    exact ⟨_, holds⟩

theorem holds_choose {d : Declaration} {id : LogicalId} :
    (∃ a b, d.Holds (.choose id a b)) ↔ ⟨.choose, id⟩ ∈ d.valueEdges := by
  rw [mem_valueEdges]
  constructor
  · exact fun ⟨_, _, holds⟩ => ⟨_, holds, rfl⟩
  · rintro ⟨node, holds, names⟩
    cases node <;> cases names
    exact ⟨_, _, holds⟩

-- Settings are named by settings only: no node of a value is one.
theorem valueEdges_kind {d : Declaration} {edge : Edge} (named : edge ∈ d.valueEdges) :
    edge.kind ∈ [.ref, .getAtt, .choose] := by
  obtain ⟨node, _, names⟩ := mem_valueEdges.mp named
  cases node <;> cases names <;> simp

end Declaration

end StackTemplate
