import StackTemplate.Proofs.Backing
import StackTemplate.Proofs.Numbering

namespace StackTemplate

structure Value.Literal (v : Value) : Prop where
  edges : v.edges = []
  fractions : v.fractions = []

theorem Value.references_edges (name : Nat → LogicalId) (zones : List Nat) :
    itemEdges (zones.map fun zone => .ref (name zone)) =
      zones.map fun zone => ⟨.ref, name zone⟩ := by
  rw [itemEdges_eq, List.flatMap_map, List.map_eq_flatMap]
  rfl

theorem Value.references_fractions (name : Nat → LogicalId) (zones : List Nat) :
    itemFractions (zones.map fun zone => .ref (name zone)) = [] := by
  induction zones with
  | nil => rfl
  | cons zone rest ih => rw [List.map_cons, itemFractions, ih]; rfl

def ParameterSpec.Literal (spec : ParameterSpec) : Prop :=
  ∀ entry ∈ spec.attributes, entry.2.Literal

theorem Entries.forall_insert {α : Type} {P : α → Prop} {entries : Entries α} {key : String}
    {value : α} (old : ∀ entry ∈ entries, P entry.2) (new : P value) :
    ∀ entry ∈ insert entries key value, P entry.2 := by
  induction entries with
  | nil => simpa [insert] using new
  | cons first rest ih =>
    obtain ⟨here, others⟩ := List.forall_mem_cons.mp old
    rw [insert]
    split
    · exact List.forall_mem_cons.mpr ⟨new, others⟩
    · exact List.forall_mem_cons.mpr ⟨here, ih others⟩

namespace ParameterSpec

theorem Literal.set {spec : ParameterSpec} (literal : spec.Literal) (key : String) {v : Value}
    (value : v.Literal) : (spec.set key v).Literal := Entries.forall_insert literal value

theorem description_literal (text : String) : (string.description text).Literal :=
  Literal.set (by simp [string, ParameterSpec.Literal]) _ ⟨rfl, rfl⟩

end ParameterSpec

namespace Declaration

theorem parameter_edges (id : LogicalId) {spec : ParameterSpec} (literal : spec.Literal) :
    (parameter id spec).edges = [] := by
  have inside : Value.entryEdges spec.attributes = [] := by
    rw [Value.entryEdges_eq, List.flatMap_eq_nil_iff]
    exact fun entry member => (literal entry member).edges
  simp [edges, valueEdges, conditionEdges, parameter, inside]

theorem parameter_writable (id : LogicalId) {spec : ParameterSpec} (literal : spec.Literal) :
    (parameter id spec).Writable := by
  have inside : Value.entryFractions spec.attributes = [] := by
    rw [Value.entryFractions_eq, List.flatMap_eq_nil_iff]
    exact fun entry member => (literal entry member).fractions
  exact ⟨by simp [fractions, parameter, inside], nofun⟩

theorem parameter_default (id : LogicalId) (spec : ParameterSpec) (value : Value) :
    (parameter id (spec.default value)).attribute? "Default" = some value := by
  rw [attribute?, parameter, ParameterSpec.default, ParameterSpec.set, Entries.find?_insert,
    if_pos rfl]

theorem parameter_backed (known : List Use) (id : LogicalId) {spec : ParameterSpec}
    (literal : spec.Literal) : (parameter id spec).Backed known :=
  ⟨rfl, parameter_writable id literal, by simp [parameter_edges id literal]⟩

theorem used_edges (d : Declaration) : d.used ⊆ d.edges.map (·.target) := by
  unfold used
  split
  · exact List.nil_subset _
  · exact List.map_subset _ (List.subset_append_left _ _)

-- The same declaration with other literals or with more names in its values.
structure Widens (known : List Use) (extra : List Edge) (bare wide : Declaration) : Prop where
  offer : wide.offer = bare.offer
  shape : bare.misplaced? = none → wide.misplaced? = none
  writable : bare.Writable → wide.Writable
  settings : wide.condition = bare.condition ∧ wide.dependsOn = bare.dependsOn
  keeps : bare.valueEdges ⊆ wide.valueEdges
  adds : ∀ edge ∈ wide.valueEdges, edge ∈ bare.valueEdges ∨ edge ∈ extra ∧ edge.Backed known

section
variable {known more : List Use} {extra : List Edge} {bare wide : Declaration}

theorem Widens.refl (d : Declaration) : d.Widens known extra d :=
  ⟨rfl, fun shape => shape, fun writable => writable, ⟨rfl, rfl⟩, List.Subset.refl _, fun _ => .inl⟩

theorem Widens.mono (widens : bare.Widens known extra wide) (wider : known ⊆ more) :
    bare.Widens more extra wide :=
  { widens with adds := fun edge member =>
      (widens.adds edge member).imp_right fun ⟨new, backed⟩ => ⟨new, backed.mono wider⟩ }

theorem Widens.sec (widens : bare.Widens known extra wide) : wide.sec = bare.sec :=
  congrArg Use.sec widens.offer

theorem Widens.id (widens : bare.Widens known extra wide) : wide.id = bare.id :=
  congrArg Use.target widens.offer

theorem Widens.parameter (id : LogicalId) {spec other : ParameterSpec} (literal : spec.Literal)
    (changed : other.Literal) : (parameter id spec).Widens known extra (parameter id other) := by
  have before := parameter_edges id literal
  have later := parameter_edges id changed
  simp only [edges, List.append_eq_nil_iff] at before later
  exact ⟨rfl, fun _ => rfl, fun _ => parameter_writable id changed, ⟨rfl, rfl⟩, by simp [before],
    by simp [later]⟩

theorem Widens.list (resource : bare.sec = .resource) (front back : Entries Value) (key : String)
    {items : List Value} (before : bare.attributes = front ++ (key, .list []) :: back)
    (after : wide = { bare with attributes := front ++ (key, .list items) :: back })
    (whole : Value.itemFractions items = [])
    (backed : ∀ edge ∈ Value.itemEdges items, edge ∈ extra ∧ edge.Backed known) :
    bare.Widens known extra wide := by
  subst after
  refine ⟨rfl, fun _ => by simp [misplaced?, resource], ?_, ⟨rfl, rfl⟩, ?_, ?_⟩
  · intro writable
    have finite := writable.finite
    refine ⟨?_, by simp [resource]⟩
    simpa [fractions, before, Value.entryFractions_eq, Value.fractions, Value.itemFractions, whole]
      using finite
  · intro edge member
    simp only [valueEdges, before, Value.entryEdges_eq, List.flatMap_append, List.flatMap_cons,
      List.mem_append, Value.edges, Value.itemEdges, List.not_mem_nil, false_or] at member ⊢
    tauto
  · intro edge member
    have items_backed := backed edge
    simp only [valueEdges, before, Value.entryEdges_eq, List.flatMap_append, List.flatMap_cons,
      List.mem_append, Value.edges] at member ⊢
    tauto

-- References to something of every zone take the place of none.
theorem Widens.references (resource : bare.sec = .resource) (front back : Entries Value)
    (key : String) {zones : List Nat} {name : Nat → LogicalId}
    (before : bare.attributes = front ++ (key, .list []) :: back)
    (after : wide = { bare with
      attributes := front ++ (key, .list (zones.map fun zone => .ref (name zone))) :: back })
    (backed : ∀ zone ∈ zones, ⟨.ref, name zone⟩ ∈ extra ∧ Edge.Backed known ⟨.ref, name zone⟩) :
    bare.Widens known extra wide := by
  refine .list resource front back key before after (Value.references_fractions name zones) ?_
  rw [Value.references_edges, List.forall_mem_map]
  exact backed

theorem Widens.edges (widens : bare.Widens known extra wide) :
    ∀ edge ∈ wide.edges, edge ∈ bare.edges ∨ edge ∈ extra ∧ edge.Backed known := by
  intro edge member
  unfold Declaration.edges conditionEdges at member ⊢
  rw [widens.settings.1, widens.settings.2] at member
  rcases List.mem_append.mp member with named | asked
  · rcases List.mem_append.mp named with valued | conditioned
    · exact (widens.adds edge valued).imp_left fun old =>
        List.mem_append_left _ (List.mem_append_left _ old)
    · exact .inl (List.mem_append_left _ (List.mem_append_right _ conditioned))
  · exact .inl (List.mem_append_right _ asked)

theorem Widens.backed (widens : bare.Widens known extra wide) (backed : bare.Backed known) :
    wide.Backed known where
  shape := widens.shape backed.shape
  writable := widens.writable backed.writable
  edges edge member := (widens.edges edge member).elim (backed.edges edge) (·.2)

theorem Widens.used (widens : bare.Widens known extra wide) : bare.used ⊆ wide.used := by
  unfold Declaration.used conditionEdges
  rw [widens.sec, widens.settings.1]
  split
  · exact List.nil_subset _
  · refine List.map_subset _ ?_
    intro edge member
    exact List.mem_append.mpr ((List.mem_append.mp member).imp_left (widens.keeps ·))

theorem Widens.used_only (widens : bare.Widens known extra wide) {id : LogicalId}
    (used : id ∈ wide.used) : id ∈ bare.used ∨ id ∈ extra.map (·.target) := by
  unfold Declaration.used conditionEdges at used ⊢
  rw [widens.sec, widens.settings.1] at used
  split at used
  · cases used
  · rename_i other
    rw [if_neg other]
    obtain ⟨edge, member, rfl⟩ := List.mem_map.mp used
    rcases List.mem_append.mp member with valued | conditioned
    · rcases widens.adds edge valued with old | ⟨new, _⟩
      · exact .inl (List.mem_map_of_mem (List.mem_append_left _ old))
      · exact .inr (List.mem_map_of_mem new)
    · exact .inl (List.mem_map_of_mem (List.mem_append_right _ conditioned))

end

end Declaration

-- A list grows into a wider one: its declarations are widened, and others are put in between.
inductive Grown (extra : List Edge) :
    List Use → List Declaration → List Declaration → List Declaration → Prop where
  | done (known : List Use) : Grown extra known [] [] []
  | kept {known : List Use} {bare wide : Declaration} {added bares wides : List Declaration}
      (widens : bare.Widens known extra wide)
      (rest : Grown extra (wide.offer :: known) added bares wides) :
      Grown extra known added (bare :: bares) (wide :: wides)
  | put {known : List Use} {d : Declaration} {added bares wides : List Declaration}
      (backed : d.Backed known) (new : d.edges ⊆ extra)
      (rest : Grown extra (d.offer :: known) added bares wides) :
      Grown extra known (d :: added) bares (d :: wides)

namespace Grown
variable {extra : List Edge} {known more : List Use} {added bare wide : List Declaration}

theorem mono (grown : Grown extra known added bare wide) (wider : known ⊆ more) :
    Grown extra more added bare wide := by
  induction grown generalizing more with
  | done => exact .done more
  | kept widens _ ih => exact .kept (widens.mono wider) (ih (List.cons_subset_cons _ wider))
  | put backed new _ ih => exact .put (backed.mono wider) new (ih (List.cons_subset_cons _ wider))

theorem append {added' bare' wide' : List Declaration} (front : Grown extra known added bare wide)
    (back : Grown extra (wide.map (·.offer) ++ known) added' bare' wide') :
    Grown extra known (added ++ added') (bare ++ bare') (wide ++ wide') := by
  -- What the first declaration offers moves from the offers of the front to what was known.
  induction front with
  | done => exact back
  | kept widens _ ih => exact .kept widens (ih (back.mono List.perm_middle.symm.subset))
  | put backed new _ ih => exact .put backed new (ih (back.mono List.perm_middle.symm.subset))

theorem widened (each : List.Forall₂ (Declaration.Widens known extra) bare wide) :
    Grown extra known [] bare wide := by
  induction each with
  | nil => exact .done known
  | cons widens _ ih => exact .kept widens (ih.mono (List.subset_cons_self _ _))

theorem inserted {ds : List Declaration} (backed : Backed known ds)
    (new : ∀ d ∈ ds, d.edges ⊆ extra) : Grown extra known ds [] ds := by
  induction ds generalizing known with
  | nil => exact .done known
  | cons d rest ih =>
    obtain ⟨first, others⟩ := List.forall_mem_cons.mp new
    exact .put backed.1 first (ih backed.2 others)

theorem followed (grown : Grown extra known added bare wide) (ds : List Declaration) :
    Grown extra known added (bare ++ ds) (wide ++ ds) := by
  have same : Grown extra (wide.map (·.offer) ++ known) [] ds ds :=
    widened (List.forall₂_same.mpr fun d _ => .refl d)
  simpa using grown.append same

-- What follows is widened by what all before it offer.
theorem widening {bare' wide' : List Declaration} (grown : Grown extra known added bare wide)
    (each : List.Forall₂ (Declaration.Widens (wide.map (·.offer) ++ known) extra) bare' wide') :
    Grown extra known added (bare ++ bare') (wide ++ wide') := by
  simpa using grown.append (widened each)

theorem inserting {ds : List Declaration} (grown : Grown extra known added bare wide)
    (backed : Backed (wide.map (·.offer) ++ known) ds) (new : ∀ d ∈ ds, d.edges ⊆ extra) :
    Grown extra known (added ++ ds) (bare ++ []) (wide ++ ds) :=
  grown.append (inserted backed new)

-- Parameters without references can be put in anywhere.
theorem literals {ds : List Declaration} (grown : Grown extra known added bare wide)
    (plain : ∀ d ∈ ds, ∃ id spec, d = .parameter id spec ∧ spec.Literal) :
    Grown extra known (added ++ ds) (bare ++ []) (wide ++ ds) := by
  refine grown.inserting (.all fun d member => ?_) fun d member => ?_
  · obtain ⟨id, spec, rfl, literal⟩ := plain d member
    exact Declaration.parameter_backed _ id literal
  · obtain ⟨id, spec, rfl, literal⟩ := plain d member
    rw [Declaration.parameter_edges id literal]
    exact List.nil_subset _

theorem backed (grown : Grown extra more added bare wide) (backed : Backed known bare)
    (wider : known ⊆ more) : Backed more wide := by
  induction grown generalizing known with
  | done => trivial
  | kept widens _ ih =>
    refine ⟨widens.backed (backed.1.mono wider), ih backed.2 ?_⟩
    rw [widens.offer]
    exact List.cons_subset_cons _ wider
  | put here _ _ ih => exact ⟨here, ih backed (List.subset_cons_of_subset _ wider)⟩

theorem ids (grown : Grown extra known added bare wide) :
    (wide.map (·.id)).Perm (bare.map (·.id) ++ added.map (·.id)) := by
  induction grown with
  | done => exact .refl _
  | kept widens _ ih =>
    simp only [List.map_cons, widens.id, List.cons_append]
    exact ih.cons _
  | put _ _ _ ih =>
    simp only [List.map_cons]
    exact (ih.cons _).trans List.perm_middle.symm

theorem added_mem (grown : Grown extra known added bare wide) {d : Declaration}
    (member : d ∈ added) : d ∈ wide := by
  induction grown with
  | done => cases member
  | kept _ _ ih => exact .tail _ (ih member)
  | put _ _ _ ih =>
    rcases List.mem_cons.mp member with rfl | later
    · exact .head _
    · exact .tail _ (ih later)

theorem used (grown : Grown extra known added bare wide) :
    bare.flatMap (·.used) ⊆ wide.flatMap (·.used) := by
  induction grown with
  | done => exact List.Subset.refl _
  | kept widens _ ih =>
    simp only [List.flatMap_cons]
    intro id member
    exact List.mem_append.mpr ((List.mem_append.mp member).imp (widens.used ·) (ih ·))
  | put _ _ _ ih => exact List.subset_append_of_subset_right _ ih

theorem used_only (grown : Grown extra known added bare wide) {id : LogicalId}
    (used : id ∈ wide.flatMap (·.used)) :
    id ∈ bare.flatMap (·.used) ∨ id ∈ extra.map (·.target) := by
  induction grown with
  | done => cases used
  | kept widens _ ih =>
    rw [List.flatMap_cons, List.mem_append] at used ⊢
    rcases used with here | later
    · exact (widens.used_only here).imp_left .inl
    · exact (ih later).imp_left .inr
  | @put _ d _ _ _ _ new _ ih =>
    rw [List.flatMap_cons, List.mem_append] at used
    rcases used with here | later
    · exact .inr (List.map_subset _ new (d.used_edges here))
    · exact ih later

theorem selected (grown : Grown extra known added bare wide) {sec : Section}
    {asked : LogicalId → Bool} (hidden : ∀ d ∈ added, d.sec = sec → asked d.id = false) :
    ((wide.filter (·.sec = sec)).map (·.id)).filter asked =
      ((bare.filter (·.sec = sec)).map (·.id)).filter asked := by
  induction grown with
  | done => rfl
  | kept widens _ ih =>
    simp only [List.filter_cons, widens.sec]
    split
    · simp only [List.map_cons, List.filter_cons, widens.id, ih hidden]
    · exact ih hidden
  | put _ _ _ ih =>
    obtain ⟨here, others⟩ := List.forall_mem_cons.mp hidden
    rw [List.filter_cons]
    split
    · rename_i same
      rw [List.map_cons, List.filter_cons, here (by simpa using same)]
      exact ih others
    · exact ih others

theorem selected_added (grown : Grown extra known added bare wide) {sec : Section}
    {asked : LogicalId → Bool} (hidden : ∀ d ∈ bare, asked d.id = false) :
    ((wide.filter (·.sec = sec)).map (·.id)).filter asked =
      ((added.filter (·.sec = sec)).map (·.id)).filter asked := by
  induction grown with
  | done => rfl
  | kept widens _ ih =>
    obtain ⟨here, others⟩ := List.forall_mem_cons.mp hidden
    rw [List.filter_cons]
    split
    · rw [List.map_cons, List.filter_cons, widens.id, here]
      exact ih others
    · exact ih others
  | put _ _ _ ih =>
    simp only [List.filter_cons]
    split
    · simp only [List.map_cons, List.filter_cons, ih hidden]
    · exact ih hidden

end Grown

end StackTemplate
