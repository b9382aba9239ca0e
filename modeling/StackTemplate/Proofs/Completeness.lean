import StackTemplate.Proofs.Growth
import StackTemplate.Stack

namespace StackTemplate

def leftOver (sec : Section) (ds : List Declaration) : List LogicalId :=
  ((ds.filter (·.sec = sec)).map (·.id)).filter (· ∉ ds.flatMap (·.used))

structure Complete (spare : List LogicalId) (ds : List Declaration) : Prop where
  proper : ∀ d ∈ ds, d.id.isValid = true
  distinct : (ds.map (·.id)).Nodup
  backed : Backed [] ds
  parameters : leftOver .parameter ds = spare
  conditions : leftOver .condition ds = []

def leftOverVerdict (level : LintLevel) (spare : List LogicalId) :
    Except DocumentError (List Advisory) :=
  match level with
  | .allow => .ok []
  | .warn => .ok (spare.map (⟨.unusedParameter, ·⟩))
  | .deny => if spare.isEmpty then .ok [] else .error (.unusedDeclarations .parameter spare)

namespace Complete
variable {spare : List LogicalId} {ds : List Declaration}

theorem accepted (complete : Complete spare ds) : refusal? [] ds = none :=
  refusal?_fresh complete.proper (by simpa using complete.distinct)

theorem sound (complete : Complete spare ds) (description : String) :
    ((Document.new description).append ds).Sound :=
  Document.append_sound (Document.empty_sound description _) complete.accepted

theorem lint (complete : Complete spare ds) (description : String) (options : LintOptions) :
    ((Document.new description).append ds).lint
        ((Document.new description).append ds).used options =
      leftOverVerdict options.unusedParameters spare := by
  have parameters : ((Document.new description).append ds).unused .parameter
      ((Document.new description).append ds).used = spare := complete.parameters
  have conditions : ((Document.new description).append ds).unused .condition
      ((Document.new description).append ds).used = [] := complete.conditions
  have nothing : ((Document.new description).append ds).lintOne
      ((Document.new description).append ds).used .unusedCondition options.unusedConditions =
      .ok [] := by
    simp only [Document.lintOne, AdvisoryKind.sec, conditions]
    cases options.unusedConditions <;> rfl
  simp only [Document.lint, nothing]
  simp only [Document.lintOne, AdvisoryKind.sec, parameters, leftOverVerdict]
  cases options.unusedParameters with
  | allow => rfl
  | warn => simp
  | deny => cases spare <;> rfl

-- With nothing left over there is nothing to remark, whatever the options ask for.
theorem resolve (complete : Complete [] ds) (description : String) (options : LintOptions) :
    ((Document.new description).append ds).resolve options =
      .ok (((Document.new description).append ds).image []) := by
  have backed : Backed [] ((Document.new description).append ds).declarations := complete.backed
  refine (Document.resolve_ok (complete.sound description)).mpr
    ⟨Document.backed_clear (complete.sound description) backed, [], ?_, rfl⟩
  rw [complete.lint]
  cases options.unusedParameters <;> rfl

theorem assemble (complete : Complete spare ds) (description : String) (options : AssemblyOptions) :
    ∃ template, ((Document.new description).append ds).assemble options =
      match leftOverVerdict options.lint.unusedParameters spare with
      | .ok advisories => .ok ⟨template, advisories⟩
      | .error e => .error (.document e) := by
  have backed : Backed [] ((Document.new description).append ds).declarations := complete.backed
  rw [Document.assemble_backed (complete.sound description) backed, complete.lint]
  cases leftOverVerdict options.lint.unusedParameters spare with
  | ok advisories => exact ⟨_, rfl⟩
  | error e => exact ⟨"", rfl⟩

end Complete

-- A list of declarations without zones that evaluation shows to be complete.
structure Checked (spare : List LogicalId) (ds : List Declaration) : Prop where
  names : ∀ d ∈ ds, d.id.Plain ∧ Zone.Apart d.id
  distinct : (ds.map (·.id)).Nodup
  backed : Backed [] ds
  parameters : leftOver .parameter ds = spare
  conditions : leftOver .condition ds = []

section Evaluation

instance (known : List Use) (edge : Edge) : Decidable (edge.Backed known) :=
  inferInstanceAs (Decidable (∃ sec ∈ _, _))

instance (known : List Use) (d : Declaration) : Decidable (d.Backed known) :=
  decidable_of_iff (d.misplaced? = none ∧ d.Writable ∧ ∀ edge ∈ d.edges, edge.Backed known)
    ⟨fun h => ⟨h.1, h.2.1, h.2.2⟩, fun h => ⟨h.1, h.2, h.3⟩⟩

instance Backed.decidable : (known : List Use) → (ds : List Declaration) →
    Decidable (Backed known ds)
  | _, [] => .isTrue trivial
  | known, d :: rest =>
    have := Backed.decidable (d.offer :: known) rest
    inferInstanceAs (Decidable (_ ∧ _))

instance (spare : List LogicalId) (ds : List Declaration) : Decidable (Checked spare ds) :=
  decidable_of_iff ((∀ d ∈ ds, d.id.Plain ∧ Zone.Apart d.id) ∧ (ds.map (·.id)).Nodup ∧
      Backed [] ds ∧ leftOver .parameter ds = spare ∧ leftOver .condition ds = [])
    ⟨fun h => ⟨h.1, h.2.1, h.2.2.1, h.2.2.2.1, h.2.2.2.2⟩, fun h => ⟨h.1, h.2, h.3, h.4, h.5⟩⟩

end Evaluation

-- Nothing more and nothing less is left over when all that is put in is put to use, and what is
-- left over anyway is not among the new names.
theorem Grown.leftOver_eq {extra : List Edge} {known : List Use}
    {added bare wide : List Declaration} (grown : Grown extra known added bare wide) {sec : Section}
    (useful : ∀ d ∈ added, d.sec = sec → d.id ∈ wide.flatMap (·.used))
    (modest : ∀ edge ∈ extra, edge.target ∉ leftOver sec bare) :
    leftOver sec wide = leftOver sec bare := by
  unfold leftOver at modest ⊢
  rw [grown.selected (by simpa using useful)]
  refine List.filter_congr fun id declared => ?_
  rw [decide_eq_decide, not_iff_not]
  constructor
  · intro used
    rcases grown.used_only used with old | new
    · exact old
    · obtain ⟨edge, member, rfl⟩ := List.mem_map.mp new
      by_contra unused
      exact modest edge member (List.mem_filter.mpr ⟨declared, by simpa using unused⟩)
  · exact (grown.used ·)

-- The names of zones are no others' names, and what is put in for a zone is put to use.
theorem Grown.complete {extra : List Edge} {added bare wide : List Declaration}
    {spare : List LogicalId} (grown : Grown extra [] added bare wide) (checked : Checked spare bare)
    (numbered : ∀ d ∈ added, ∃ (family : Zone.Family) (zone : Nat), d.id = family.name zone)
    (distinct : (added.map (·.id)).Nodup)
    (useful : ∀ d ∈ added, d.sec = .parameter → d.id ∈ wide.flatMap (·.used))
    (unconditional : ∀ d ∈ added, d.sec ≠ .condition)
    (modest : ∀ edge ∈ extra, edge.target ∉ spare) : Complete spare wide := by
  have member_ids {d : Declaration} (member : d ∈ wide) :
      d.id ∈ bare.map (·.id) ∨ d.id ∈ added.map (·.id) :=
    List.mem_append.mp (grown.ids.subset (List.mem_map_of_mem member))
  refine ⟨?_, ?_, grown.backed checked.backed (List.nil_subset _), ?_, ?_⟩
  · intro d member
    rcases member_ids member with old | new
    · obtain ⟨known, inside, same⟩ := List.mem_map.mp old
      exact same ▸ (checked.names known inside).1.isValid
    · obtain ⟨put, inside, same⟩ := List.mem_map.mp new
      obtain ⟨family, zone, named⟩ := numbered put inside
      rw [← same, named]
      exact family.name_valid zone
  · refine grown.ids.nodup_iff.mpr (List.nodup_append.mpr ⟨checked.distinct, distinct, ?_⟩)
    intro id old other new same
    obtain ⟨known, inside, rfl⟩ := List.mem_map.mp old
    obtain ⟨put, member, rfl⟩ := List.mem_map.mp new
    obtain ⟨family, zone, named⟩ := numbered put member
    exact (checked.names known inside).2.ne family zone (same.trans named)
  · rw [grown.leftOver_eq useful (by rwa [checked.parameters]), checked.parameters]
  · rw [grown.leftOver_eq (fun d member same => absurd same (unconditional d member))
      (by simp [checked.conditions]), checked.conditions]

end StackTemplate
