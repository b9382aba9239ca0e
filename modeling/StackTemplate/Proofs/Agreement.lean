import StackTemplate.Proofs.Layout
import StackTemplate.Proofs.Sameness

namespace StackTemplate

namespace Value

-- Either side names everything that the other names, the order apart.
theorem Alike.edges {a b : Value} (alike : a.Alike b) : a.edges ⊆ b.edges := by
  have listed {as bs : List Value} (length : as.length = bs.length)
      (each : ∀ (i : Nat) a b, as[i]? = some a → bs[i]? = some b → a.edges ⊆ b.edges) :
      itemEdges as ⊆ itemEdges bs := by
    intro edge named
    rw [itemEdges_eq, List.mem_flatMap] at named ⊢
    obtain ⟨a, member, inside⟩ := named
    obtain ⟨i, left⟩ := List.mem_iff_getElem?.mp member
    obtain ⟨b, right⟩ := counterpart length left
    exact ⟨b, List.mem_of_getElem? right, each i a b left right inside⟩
  have both {as bs xs ys : List Edge} (left : as ⊆ xs) (right : bs ⊆ ys) : as ++ bs ⊆ xs ++ ys :=
    List.append_subset.mpr ⟨List.subset_append_of_subset_left _ left,
      List.subset_append_of_subset_right _ right⟩
  induction alike with
  | list length _ ih => exact listed length ih
  | map length known _ ih =>
    intro edge named
    rw [Value.edges, entryEdges_eq, List.mem_flatMap] at named ⊢
    obtain ⟨⟨key, a⟩, member, inside⟩ := named
    obtain ⟨b, found⟩ := Entries.find?_of_key (known (List.mem_map_of_mem member))
    exact ⟨(key, b), Entries.mem_of_find? found, ih key a b member found inside⟩
  | join _ length _ ih => exact listed length ih
  | choose condition _ _ first second =>
    exact List.cons_subset_cons _ (both first second)
  | equals _ _ left right => exact both left right
  | base64 _ inner => exact inner
  | _ => exact fun _ named => named

end Value

mutual

def ResolvedValue.same : ResolvedValue → ResolvedValue → Bool
  | .string a, .string b => a == b
  | .number a, .number b => a.same b
  | .bool a, .bool b => a == b
  | .list as, .list bs => ResolvedValue.sameItems as bs
  | .map as, .map bs => as.length == bs.length && ResolvedValue.sameEntries as bs
  | .ref a, .ref b => a == b
  | .getAtt a x, .getAtt b y => a == b && x == y
  | .join s as, .join t bs => s == t && ResolvedValue.sameItems as bs
  | .choose c a b, .choose d x y => c == d && a.same x && b.same y
  | .equals a b, .equals x y => a.same x && b.same y
  | .base64 a, .base64 b => a.same b
  | _, _ => false

def ResolvedValue.sameItems : List ResolvedValue → List ResolvedValue → Bool
  | [], [] => true
  | a :: as, b :: bs => a.same b && ResolvedValue.sameItems as bs
  | _, _ => false

def ResolvedValue.sameEntries :
    List (String × ResolvedValue) → List (String × ResolvedValue) → Bool
  | [], _ => true
  | (key, a) :: as, other =>
    (match Entries.find? other key with
      | some b => a.same b
      | none => false) && ResolvedValue.sameEntries as other

end

namespace Value

theorem itemImages_same {as bs : List Value} (length : as.length = bs.length)
    (each : ∀ (i : Nat) a b, as[i]? = some a → bs[i]? = some b → a.image.same b.image = true) :
    ResolvedValue.sameItems (itemImages as) (itemImages bs) = true := by
  induction as generalizing bs with
  | nil =>
    cases bs with
    | nil => rfl
    | cons b bs => cases length
  | cons a as ih =>
    cases bs with
    | nil => cases length
    | cons b bs =>
      have first := each 0 a b rfl rfl
      have rest := ih (Nat.succ.inj length) fun i x y left right => each (i + 1) x y left right
      rw [itemImages, itemImages, ResolvedValue.sameItems, first, rest]
      rfl

theorem entryImages_same {as other : List (String × Value)}
    (each : ∀ key a, (key, a) ∈ as →
      ∃ b, Entries.find? other key = some b ∧ a.image.same b.image = true) :
    ResolvedValue.sameEntries (entryImages as) (entryImages other) = true := by
  induction as with
  | nil => rfl
  | cons entry as ih =>
    obtain ⟨key, a⟩ := entry
    obtain ⟨b, found, same⟩ := each key a List.mem_cons_self
    have rest := ih fun k x member => each k x (List.mem_cons_of_mem _ member)
    rw [entryImages, ResolvedValue.sameEntries, find?_entryImages, found, rest, Bool.and_true]
    exact same

theorem entryImages_length (vs : List (String × Value)) : (entryImages vs).length = vs.length := by
  simpa [Entries.keys] using congrArg List.length (keys_entryImages vs)

theorem Alike.image {a b : Value} (alike : a.Alike b) : a.image.same b.image = true := by
  induction alike with
  | string text => simp [Value.image, ResolvedValue.same]
  | number same => exact same
  | bool value => simp [Value.image, ResolvedValue.same]
  | list length _ ih => exact itemImages_same length ih
  | @map as bs length known _ ih =>
    rw [Value.image, Value.image, ResolvedValue.same, Bool.and_eq_true, beq_iff_eq,
      entryImages_length, entryImages_length]
    refine ⟨length, entryImages_same fun key a member => ?_⟩
    obtain ⟨b, found⟩ := Entries.find?_of_key (known (List.mem_map_of_mem member))
    exact ⟨b, found, ih key a b member found⟩
  | ref target => simp [Value.image, ResolvedValue.same]
  | getAtt target name => simp [Value.image, ResolvedValue.same]
  | pseudo parameter => simp [Value.image, ResolvedValue.same]
  | join separator length _ ih =>
    rw [Value.image, Value.image, ResolvedValue.same, Bool.and_eq_true, beq_iff_eq]
    exact ⟨rfl, itemImages_same length ih⟩
  | choose condition _ _ first second => simp [Value.image, ResolvedValue.same, first, second]
  | equals _ _ left right => simp [Value.image, ResolvedValue.same, left, right]
  | base64 _ inner => exact inner

end Value

-- The names that count as used once they are named for the owner. A parameter uses nothing.
def Declaration.marks (owner : Declaration) (uses : List Use) : List LogicalId :=
  if owner.sec = .parameter then [] else uses.map (·.target)

def Use.resources (uses : List Use) : List LogicalId :=
  (uses.filter (·.sec = .resource)).map (·.target)

theorem Declaration.marks_congr (owner : Declaration) {uses others : List Use}
    (same : ∀ use, use ∈ uses ↔ use ∈ others) (id : LogicalId) :
    id ∈ owner.marks uses ↔ id ∈ owner.marks others := by
  unfold marks
  split
  · rfl
  · simp only [List.mem_map, same]

theorem Use.resources_congr {uses others : List Use} (same : ∀ use, use ∈ uses ↔ use ∈ others)
    (id : LogicalId) : id ∈ Use.resources uses ↔ id ∈ Use.resources others := by
  simp only [Use.resources, List.mem_map, List.mem_filter, same]

-- These are the names that the resolution of a declaration marks and depends on.
theorem Declaration.resolve_leaves {d : Declaration} {doc : Document} {position : Nat}
    {resolved : ResolvedDeclaration} {used : List LogicalId}
    (done : d.resolve doc position = .ok (resolved, used)) :
    ∃ attributes policy condition,
      (Scope.entries ⟨doc, d, position⟩ d.attributes).map (·.2) = .ok attributes ∧
      (Scope.value? ⟨doc, d, position⟩ d.updatePolicy).map (·.2) = .ok policy ∧
      Scope.condition? ⟨doc, d, position⟩ d.condition = .ok condition ∧
      used = d.marks (attributes ++ policy ++ condition) ∧
      resolved.dependsOn = if d.sec = .resource then
        extendListed d.dependsOn (Use.resources (attributes ++ policy)) else [] := by
  obtain ⟨_, _, rest⟩ := bind_ok.mp done
  obtain ⟨⟨entries, attributes⟩, first, rest⟩ := bind_ok.mp rest
  obtain ⟨⟨update, policy⟩, second, rest⟩ := bind_ok.mp rest
  obtain ⟨condition, third, rest⟩ := bind_ok.mp rest
  obtain ⟨_, _, rest⟩ := bind_ok.mp rest
  cases rest
  refine ⟨attributes, policy, condition, ?_, ?_, third, rfl, rfl⟩
  · rw [first]
    rfl
  · rw [second]
    rfl

namespace Scope

-- The two values come to the same for the owner: both fail or neither does, and what is read in
-- their place is the same and leaves the same names behind.
structure Agrees (scope : Scope) (a b : Value) : Prop where
  succeeds : (∃ result, scope.value a = .ok result) ↔ ∃ result, scope.value b = .ok result
  same : ∀ r s uses others, scope.value a = .ok (r, uses) → scope.value b = .ok (s, others) →
    r.same s = true
  marked : ∀ r s uses others, scope.value a = .ok (r, uses) → scope.value b = .ok (s, others) →
    ∀ id, id ∈ scope.owner.marks uses ↔ id ∈ scope.owner.marks others
  derived : ∀ r s uses others, scope.value a = .ok (r, uses) → scope.value b = .ok (s, others) →
    ∀ id, id ∈ Use.resources uses ↔ id ∈ Use.resources others

theorem value_ok {scope : Scope} (stands : scope.Stands) {v : Value} {r : ResolvedValue}
    {uses : List Use} : scope.value v = .ok (r, uses) ↔
      (∀ edge ∈ v.edges, scope.document.judge scope.owner.id edge = none) ∧
        v.image = r ∧ scope.uses v.edges = uses := by
  rw [value_eq stands, settle_ok, firstWrong, List.findSome?_eq_none_iff, Prod.mk.injEq]

theorem agrees {scope : Scope} (stands : scope.Stands) {a b : Value} (forth : a.Alike b)
    (back : b.Alike a) : scope.Agrees a b := by
  have named : ∀ edge, edge ∈ a.edges ↔ edge ∈ b.edges :=
    fun edge => ⟨fun inside => forth.edges inside, fun inside => back.edges inside⟩
  have used : ∀ use, use ∈ scope.uses a.edges ↔ use ∈ scope.uses b.edges := by
    simp [uses, named]
  refine ⟨?_, ?_, ?_, ?_⟩
  · simp only [Prod.exists, value_ok stands, named]
    simp
  · intro r s uses others left right
    obtain ⟨_, rfl, _⟩ := (value_ok stands).mp left
    obtain ⟨_, rfl, _⟩ := (value_ok stands).mp right
    exact forth.image
  · intro r s uses others left right
    obtain ⟨_, _, rfl⟩ := (value_ok stands).mp left
    obtain ⟨_, _, rfl⟩ := (value_ok stands).mp right
    exact scope.owner.marks_congr used
  · intro r s uses others left right
    obtain ⟨_, _, rfl⟩ := (value_ok stands).mp left
    obtain ⟨_, _, rfl⟩ := (value_ok stands).mp right
    exact Use.resources_congr used

end Scope

namespace Value

-- Sameness is symmetric and transitive, holds of a value and itself unless a NaN stands in it, and
-- is respected by resolution, whoever the values are resolved for.
theorem same_congruence :
    (∀ a b : Value, a.Keyed → b.Keyed → a.same b = true → b.same a = true) ∧
    (∀ a b c : Value, a.same b = true → b.same c = true → a.same c = true) ∧
    (∀ a : Value, a.Keyed → (a.same a = true ↔ a.NaNFree)) ∧
    ∀ (doc : Document) (position : Nat) (owner : Declaration), doc.Reachable →
      doc.declarations[position]? = some owner →
      ∀ a b : Value, a.Keyed → b.Keyed → a.same b = true →
        Scope.Agrees ⟨doc, owner, position⟩ a b := by
  refine ⟨?_, ?_, ?_, ?_⟩
  · intro a b keyed other same
    exact ((same_iff.mp same).symm keyed other).same
  · intro a b c first second
    exact ((same_iff.mp first).trans (same_iff.mp second)).same
  · intro a keyed
    exact ⟨fun same => (same_iff.mp same).nanFree, fun clean => (Alike.self keyed clean).same⟩
  · intro doc position owner reached here a b keyed other same
    have alike := same_iff.mp same
    exact Scope.agrees ⟨reached.sound, here⟩ alike (alike.symm keyed other)

def limits (size : Value) (load : Binary64) : Value :=
  .map [("Size", size), ("Load", .list [.number (.float load)])]

-- The entries the other way round, and the other zero.
def turned (size : Value) (load : Binary64) : Value :=
  .map [("Load", .list [.number (.float load)]), ("Size", size)]

def sized : Document := Document.run (.new "test")
  [ .add (.parameter "size" .string), .add (.output "echo" "x") ]

def sizedScope : Scope := ⟨sized, .output "echo" "x", 1⟩

theorem limits_turned :
    (∃ result, sizedScope.value (limits (.ref "size") (Binary64.ofMagnitude false 0)) =
      .ok result) ∧
    (turned (.ref "size") (Binary64.ofMagnitude true 0)).same
      (limits (.ref "size") (Binary64.ofMagnitude false 0)) = true ∧
    (limits (.ref "size") (Binary64.ofMagnitude false 0)).NaNFree ∧
    sizedScope.Agrees (limits (.ref "size") (Binary64.ofMagnitude false 0))
      (turned (.ref "size") (Binary64.ofMagnitude true 0)) := by
  have reached : sized.Reachable := (Document.Reachable.empty "test" _).run _
  have keyed : (limits (.ref "size") (Binary64.ofMagnitude false 0)).Keyed := by decide
  have other : (turned (.ref "size") (Binary64.ofMagnitude true 0)).Keyed := by decide
  have same : (limits (.ref "size") (Binary64.ofMagnitude false 0)).same
      (turned (.ref "size") (Binary64.ofMagnitude true 0)) = true := by decide
  obtain ⟨symm, trans, self, congruence⟩ := same_congruence
  have back := symm _ _ keyed other same
  exact ⟨⟨_, rfl⟩, back, (self _ keyed).mp (trans _ _ _ same back),
    congruence sized 1 _ reached rfl _ _ keyed other same⟩

end Value

end StackTemplate
