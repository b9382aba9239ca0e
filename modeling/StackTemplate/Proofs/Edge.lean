import StackTemplate.Proofs.Registry
import StackTemplate.Resolution

namespace StackTemplate

structure Edge where
  kind : ReferenceKind
  target : LogicalId
  deriving DecidableEq, Repr

mutual

-- The namings in a value, depth first and left to right.
def Value.edges : Value → List Edge
  | .list vs => Value.itemEdges vs
  | .map vs => Value.entryEdges vs
  | .ref target => [⟨.ref, target⟩]
  | .getAtt target _ => [⟨.getAtt, target⟩]
  | .join _ vs => Value.itemEdges vs
  | .choose condition a b => ⟨.choose, condition⟩ :: (a.edges ++ b.edges)
  | .equals a b => a.edges ++ b.edges
  | .base64 v => v.edges
  | _ => []

def Value.itemEdges : List Value → List Edge
  | [] => []
  | v :: vs => v.edges ++ Value.itemEdges vs

def Value.entryEdges : List (String × Value) → List Edge
  | [] => []
  | (_, v) :: vs => v.edges ++ Value.entryEdges vs

end

mutual

-- What the engine reads in place of a value, whether its references are good or not.
def Value.image : Value → ResolvedValue
  | .string text => .string text
  | .number n => .number n
  | .bool b => .bool b
  | .list vs => .list (Value.itemImages vs)
  | .map vs => .map (Value.entryImages vs)
  | .ref target => .ref target.text
  | .getAtt target name => .getAtt target.text name
  | .pseudo parameter => .ref parameter.token
  | .join separator vs => .join separator (Value.itemImages vs)
  | .choose condition a b => .choose condition.text a.image b.image
  | .equals a b => .equals a.image b.image
  | .base64 v => .base64 v.image

def Value.itemImages : List Value → List ResolvedValue
  | [] => []
  | v :: vs => v.image :: Value.itemImages vs

def Value.entryImages : List (String × Value) → List (String × ResolvedValue)
  | [] => []
  | (key, v) :: vs => (key, v.image) :: Value.entryImages vs

end

theorem Value.itemEdges_eq (vs : List Value) : Value.itemEdges vs = vs.flatMap edges := by
  induction vs with
  | nil => rfl
  | cons v vs ih => rw [Value.itemEdges, ih, List.flatMap_cons]

theorem Value.entryEdges_eq (vs : List (String × Value)) :
    Value.entryEdges vs = vs.flatMap fun entry => entry.2.edges := by
  induction vs with
  | nil => rfl
  | cons entry vs ih => rw [Value.entryEdges, ih, List.flatMap_cons]

namespace Document

-- What is wrong with a naming: it is the owner's own name, nobody's, a name of the wrong section,
-- or one that is given only after the owner's.
def judge (doc : Document) (owner : LogicalId) (edge : Edge) : Option DocumentError :=
  if edge.target = owner then some (.selfReference owner)
  else match doc.find? edge.target with
    | none => some (.unresolvedReference edge.target owner (doc.suggestions edge.target))
    | some found =>
      if found.sec ∉ edge.kind.allowed then
        some (.sectionMismatch owner edge.target edge.kind found.sec)
      else if doc.ids.idxOf owner < doc.ids.idxOf edge.target then
        some (.forwardReference owner edge.target)
      else none

-- The section of a name; for a name nobody has it does not matter.
def sectionOf (doc : Document) (id : LogicalId) : Section :=
  match doc.find? id with
  | some d => d.sec
  | none => .output

def use (doc : Document) (edge : Edge) : Use := ⟨edge.target, doc.sectionOf edge.target⟩

end Document

namespace Scope

structure Stands (scope : Scope) : Prop where
  sound : scope.document.Sound
  here : scope.document.declarations[scope.position]? = some scope.owner

theorem lookup_eq {scope : Scope} (stands : scope.Stands) (edge : Edge) :
    scope.lookup edge.kind edge.target =
      settle (scope.document.judge scope.owner.id edge) (scope.document.sectionOf edge.target) := by
  unfold lookup Document.judge Document.sectionOf
  by_cases self : edge.target = scope.owner.id
  · simp [self]
  · cases found : scope.document.find? edge.target with
    | none => simp [self]
    | some d =>
      by_cases allowed : d.sec ∈ edge.kind.allowed
      · obtain ⟨member, named⟩ := (Document.find?_eq_some stands.sound).mp found
        obtain ⟨i, there⟩ := List.mem_iff_getElem?.mp member
        -- Names are distinct, so a position found is the place of the name among all names.
        have position := (Document.position?_eq_some stands.sound).mpr ⟨d, there, named⟩
        have later := Document.idxOf_eq stands.sound there
        rw [named] at later
        have earlier := Document.idxOf_eq stands.sound stands.here
        by_cases forward : scope.position < i
        · simp [self, allowed, position, later, earlier, forward]
        · simp [self, allowed, position, later, earlier, forward]
      · simp [self, allowed]

def firstWrong (scope : Scope) (edges : List Edge) : Option DocumentError :=
  edges.findSome? (scope.document.judge scope.owner.id)

theorem firstWrong_cons (scope : Scope) (edge : Edge) (edges : List Edge) :
    scope.firstWrong (edge :: edges) =
      (scope.document.judge scope.owner.id edge).or (scope.firstWrong edges) := by
  unfold firstWrong
  rw [List.findSome?_cons]
  cases scope.document.judge scope.owner.id edge <;> rfl

theorem firstWrong_append (scope : Scope) (front back : List Edge) :
    scope.firstWrong (front ++ back) = (scope.firstWrong front).or (scope.firstWrong back) :=
  List.findSome?_append

def uses (scope : Scope) (edges : List Edge) : List Use := edges.map scope.document.use

theorem uses_cons (scope : Scope) (edge : Edge) (edges : List Edge) :
    scope.uses (edge :: edges) = scope.document.use edge :: scope.uses edges := List.map_cons

theorem uses_append (scope : Scope) (front back : List Edge) :
    scope.uses (front ++ back) = scope.uses front ++ scope.uses back := List.map_append

theorem name_eq {α : Type} {scope : Scope} (stands : scope.Stands) (edge : Edge) (result : α) :
    (do
      let sec ← scope.lookup edge.kind edge.target
      return (result, [(⟨edge.target, sec⟩ : Use)])) =
      settle (scope.firstWrong [edge]) (result, scope.uses [edge]) := by
  rw [lookup_eq stands, firstWrong_cons]
  exact settle_bind rfl

mutual

theorem value_eq {scope : Scope} (stands : scope.Stands) : ∀ v : Value,
    scope.value v = settle (scope.firstWrong v.edges) (v.image, scope.uses v.edges)
  | .string _ => rfl
  | .number _ => rfl
  | .bool _ => rfl
  | .pseudo _ => rfl
  | .list vs => by
    rw [value, items_eq stands vs]
    exact settle_then rfl
  | .map vs => by
    rw [value, entries_eq stands vs]
    exact settle_then rfl
  | .ref target => by
    rw [value]
    exact name_eq stands ⟨.ref, target⟩ _
  | .getAtt target name => by
    rw [value]
    exact name_eq stands ⟨.getAtt, target⟩ _
  | .join separator vs => by
    rw [value, items_eq stands vs]
    exact settle_then rfl
  | .choose condition a b => by
    have named := lookup_eq stands ⟨.choose, condition⟩
    dsimp only at named
    rw [value, named, value_eq stands a, value_eq stands b, Value.edges, firstWrong_cons,
      firstWrong_append, uses_cons, uses_append]
    exact settle_bind (settle_bind (settle_then rfl))
  | .equals a b => by
    rw [value, value_eq stands a, value_eq stands b, Value.edges, firstWrong_append, uses_append]
    exact settle_bind (settle_then rfl)
  | .base64 v => by
    rw [value, value_eq stands v]
    exact settle_then rfl

theorem items_eq {scope : Scope} (stands : scope.Stands) : ∀ vs : List Value,
    scope.items vs =
      settle (scope.firstWrong (Value.itemEdges vs))
        (Value.itemImages vs, scope.uses (Value.itemEdges vs))
  | [] => rfl
  | v :: vs => by
    rw [items, value_eq stands v, items_eq stands vs, Value.itemEdges, firstWrong_append,
      uses_append]
    exact settle_bind (settle_then rfl)

theorem entries_eq {scope : Scope} (stands : scope.Stands) : ∀ vs : List (String × Value),
    scope.entries vs =
      settle (scope.firstWrong (Value.entryEdges vs))
        (Value.entryImages vs, scope.uses (Value.entryEdges vs))
  | [] => rfl
  | (key, v) :: vs => by
    rw [entries, value_eq stands v, entries_eq stands vs, Value.entryEdges, firstWrong_append,
      uses_append]
    exact settle_bind (settle_then rfl)

end

end Scope

end StackTemplate
