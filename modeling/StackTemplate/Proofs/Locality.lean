import StackTemplate.Proofs.Dependency
import StackTemplate.Proofs.Idle

namespace StackTemplate

namespace Declaration

-- The target is named in a value at any depth, as the condition or as something to wait for.
def Names (d : Declaration) (target : LogicalId) : Prop :=
  d.RefersTo target ∨ d.HangsOn target ∨ target ∈ d.dependsOn

theorem names_iff {d : Declaration} {target : LogicalId} :
    d.Names target ↔ ∃ edge ∈ d.edges, edge.target = target := by
  rw [Names, HangsOn, refersTo_iff, holds_choose]
  constructor
  · rintro (⟨edge, named, _, same⟩ | (choice | condition) | awaited)
    · exact ⟨edge, mem_edges.mpr (.inl named), same⟩
    · exact ⟨_, mem_edges.mpr (.inl choice), rfl⟩
    · exact ⟨_, mem_edges.mpr (.inr (.inl ⟨target, condition, rfl⟩)), rfl⟩
    · exact ⟨_, mem_edges.mpr (.inr (.inr ⟨target, awaited, rfl⟩)), rfl⟩
  · rintro ⟨edge, named, rfl⟩
    rcases mem_edges.mp named with valued | ⟨name, condition, rfl⟩ | ⟨name, awaited, rfl⟩
    · have kinds := valueEdges_kind valued
      obtain ⟨kind, target⟩ := edge
      cases kind with
      | ref => exact .inl ⟨_, valued, by simp, rfl⟩
      | getAtt => exact .inl ⟨_, valued, by simp, rfl⟩
      | choose => exact .inr (.inl (.inl valued))
      | condition => simp at kinds
      | dependsOn => simp at kinds
    · exact .inr (.inl (.inr condition))
    · exact .inr (.inr awaited)

instance (d : Declaration) (target : LogicalId) : Decidable (d.Names target) :=
  decidable_of_iff (∃ edge ∈ d.edges, edge.target = target) names_iff.symm

-- Two documents that agree on the sections of what is named make the same of a declaration.
theorem image_congr {doc other : Document} {d : Declaration}
    (same : ∀ edge ∈ d.valueEdges, doc.sectionOf edge.target = other.sectionOf edge.target) :
    d.image doc = d.image other := by
  have resources : d.namedResources doc = d.namedResources other := by
    unfold namedResources
    apply List.filter_congr
    intro target named
    obtain ⟨edge, member, rfl⟩ := List.mem_map.mp named
    simp only [same edge member]
  simp only [image, resources]

end Declaration

def LintOptions.Tolerant (options : LintOptions) : Prop :=
  options.unusedParameters ≠ .deny ∧ options.unusedConditions ≠ .deny

def LintOptions.level (options : LintOptions) : AdvisoryKind → LintLevel
  | .unusedParameter => options.unusedParameters
  | .unusedCondition => options.unusedConditions

namespace Document

-- Nothing is wrong with a document whose declarations have the settings of their sections and name
-- only what stands before them.
theorem violations_nil_iff {doc : Document} (sound : doc.Sound) :
    doc.violations = [] ↔ ∀ d ∈ doc.declarations, d.misplaced? = none ∧
      ∀ edge ∈ d.edges, doc.Precedes edge.kind.allowed edge.target d.id := by
  rw [violations_nil]
  constructor
  · intro clean d member
    obtain ⟨shape, clear⟩ := clean d member
    exact ⟨shape, fun edge named => judge_none sound member (clear edge named)⟩
  · intro ordered d member
    obtain ⟨shape, earlier⟩ := ordered d member
    exact ⟨shape, fun edge named => precedes_judge sound (earlier edge named)⟩

def remarks (doc : Document) (options : LintOptions) : List Advisory :=
  reported .unusedParameter options.unusedParameters (doc.unused .parameter doc.used) ++
    reported .unusedCondition options.unusedConditions (doc.unused .condition doc.used)

theorem mem_reported {kind : AdvisoryKind} {level : LintLevel} {ids : List LogicalId}
    {advisory : Advisory} :
    advisory ∈ reported kind level ids ↔
      level = .warn ∧ advisory.kind = kind ∧ advisory.id ∈ ids := by
  obtain ⟨given, id⟩ := advisory
  by_cases warned : level = .warn
  · simp [reported, warned, eq_comm, and_comm]
  · simp [reported, warned]

theorem mem_unused {doc : Document} {sec : Section} {id : LogicalId} :
    id ∈ doc.unused sec doc.used ↔
      (∃ d ∈ doc.declarations, d.sec = sec ∧ d.id = id) ∧ id ∉ doc.used := by
  simp [unused, ofSection, and_assoc]

theorem mem_remarks {doc : Document} {options : LintOptions} {advisory : Advisory} :
    advisory ∈ doc.remarks options ↔ options.level advisory.kind = .warn ∧
      (∃ d ∈ doc.declarations, d.sec = advisory.kind.sec ∧ d.id = advisory.id) ∧
      advisory.id ∉ doc.used := by
  obtain ⟨kind, id⟩ := advisory
  rw [remarks, List.mem_append, mem_reported, mem_reported, mem_unused, mem_unused]
  cases kind with
  | unusedParameter => simp [LintOptions.level, AdvisoryKind.sec]
  | unusedCondition => simp [LintOptions.level, AdvisoryKind.sec]

theorem lint_ok {doc : Document} {options : LintOptions} {advisories : List Advisory}
    (linted : doc.lint doc.used options = .ok advisories) : advisories = doc.remarks options := by
  rw [lint, lintOne_eq, lintOne_eq] at linted
  split at linted
  · cases linted
  · split at linted
    · cases linted
    · cases linted
      rfl

theorem lint_tolerant {options : LintOptions} (tolerant : options.Tolerant) (doc : Document) :
    doc.lint doc.used options = .ok (doc.remarks options) := by
  rw [lint, lintOne_eq, lintOne_eq, if_neg fun denied => tolerant.1 denied.1,
    if_neg fun denied => tolerant.2 denied.1]
  rfl

-- A resolution writes the declarations of its document as they are and remarks what is unused.
theorem resolve_image {doc : Document} (sound : doc.Sound) {options : LintOptions}
    {resolved : ResolvedDocument} (resolves : doc.resolve options = .ok resolved) :
    doc.violations = [] ∧ resolved = doc.image (doc.remarks options) := by
  obtain ⟨clean, advisories, linted, rfl⟩ := (resolve_ok sound).mp resolves
  exact ⟨clean, by rw [lint_ok linted]⟩

theorem resolve_tolerant {doc : Document} (sound : doc.Sound) {options : LintOptions}
    (tolerant : options.Tolerant) (clean : doc.violations = []) :
    doc.resolve options = .ok (doc.image (doc.remarks options)) :=
  (resolve_ok sound).mpr ⟨clean, _, lint_tolerant tolerant doc, rfl⟩

end Document

end StackTemplate
