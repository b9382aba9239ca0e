import StackTemplate.Proofs.Occurrence
import StackTemplate.Proofs.Precedence

namespace StackTemplate

namespace Declaration

-- Something about the declaration depends on the condition: a choice in it, or whether it exists.
def HangsOn (d : Declaration) (id : LogicalId) : Prop :=
  (∃ a b, d.Holds (.choose id a b)) ∨ d.condition = some id

theorem mem_conditionEdges {d : Declaration} {edge : Edge} :
    edge ∈ d.conditionEdges ↔ edge.kind = .condition ∧ d.condition = some edge.target := by
  obtain ⟨kind, target⟩ := edge
  simp [conditionEdges, eq_comm, and_comm]

instance (d : Declaration) (id : LogicalId) : Decidable (d.Holds (.ref id)) :=
  decidable_of_iff _ holds_ref.symm

instance (d : Declaration) (id : LogicalId) : Decidable (d.HangsOn id) :=
  decidable_of_iff (⟨.choose, id⟩ ∈ d.valueEdges ∨ d.condition = some id) (by
    rw [HangsOn, holds_choose])

end Declaration

namespace Document

-- A resource, an output or a condition takes the value of the parameter.
def Needs (doc : Document) (parameter : LogicalId) : Prop :=
  ∃ d ∈ doc.declarations, d.sec ≠ .parameter ∧ d.Holds (.ref parameter)

def Asks (doc : Document) (condition : LogicalId) : Prop :=
  ∃ d ∈ doc.declarations, d.sec ≠ .parameter ∧ d.HangsOn condition

instance (doc : Document) (id : LogicalId) : Decidable (doc.Needs id) :=
  inferInstanceAs (Decidable (∃ d ∈ doc.declarations, _))

instance (doc : Document) (id : LogicalId) : Decidable (doc.Asks id) :=
  inferInstanceAs (Decidable (∃ d ∈ doc.declarations, _))

def idleParameters (doc : Document) : List LogicalId :=
  ((doc.ofSection .parameter).map (·.id)).filter (¬ doc.Needs ·)

def idleConditions (doc : Document) : List LogicalId :=
  ((doc.ofSection .condition).map (·.id)).filter (¬ doc.Asks ·)

def reported (kind : AdvisoryKind) (level : LintLevel) (ids : List LogicalId) : List Advisory :=
  if level = .warn then ids.map (⟨kind, ·⟩) else []

-- What options make of a document that resolves when everything is tolerated.
def verdict (doc : Document) (plain : ResolvedDocument) (options : LintOptions) :
    Except DocumentError ResolvedDocument :=
  if options.unusedParameters = .deny ∧ doc.idleParameters ≠ [] then
    .error (.unusedDeclarations .parameter doc.idleParameters)
  else if options.unusedConditions = .deny ∧ doc.idleConditions ≠ [] then
    .error (.unusedDeclarations .condition doc.idleConditions)
  else .ok { plain with
    advisories := reported .unusedParameter options.unusedParameters doc.idleParameters ++
      reported .unusedCondition options.unusedConditions doc.idleConditions }

theorem mem_used {doc : Document} {id : LogicalId} :
    id ∈ doc.used ↔ ∃ d ∈ doc.declarations, d.sec ≠ .parameter ∧
      ∃ edge ∈ d.valueEdges ++ d.conditionEdges, edge.target = id := by
  simp only [used, List.mem_flatMap]
  refine exists_congr fun d => and_congr_right fun _ => ?_
  unfold Declaration.used
  by_cases parameter : d.sec = .parameter
  · simp [parameter]
  · rw [if_neg parameter, List.mem_map]
    exact (and_iff_right parameter).symm

theorem target_allowed {doc : Document} (sound : doc.Sound) (clean : doc.violations = [])
    {d t : Declaration} (member : d ∈ doc.declarations) (declared : t ∈ doc.declarations)
    {edge : Edge} (named : edge ∈ d.valueEdges ++ d.conditionEdges) (same : edge.target = t.id) :
    t.sec ∈ edge.kind.allowed := by
  have clear := (violations_nil.mp clean d member).2 edge (List.mem_append_left _ named)
  rw [← sectionOf_eq sound declared, ← same]
  exact sectionOf_allowed sound member clear

theorem used_parameter {doc : Document} (sound : doc.Sound) (clean : doc.violations = [])
    {t : Declaration} (declared : t ∈ doc.declarations) (parameter : t.sec = .parameter) :
    t.id ∈ doc.used ↔ doc.Needs t.id := by
  rw [mem_used]
  refine exists_congr fun d => and_congr_right fun member => and_congr_right fun _ => ?_
  rw [Declaration.holds_ref]
  constructor
  · rintro ⟨⟨kind, target⟩, named, rfl⟩
    have allowed := target_allowed sound clean member declared named rfl
    rw [parameter] at allowed
    -- A reference is the only naming that can mean a parameter, and it stands in a value.
    cases kind with
    | ref =>
      rcases List.mem_append.mp named with valued | setting
      · exact valued
      · cases (Declaration.mem_conditionEdges.mp setting).1
    | _ => simp [ReferenceKind.allowed] at allowed
  · intro named
    exact ⟨_, List.mem_append_left _ named, rfl⟩

theorem used_condition {doc : Document} (sound : doc.Sound) (clean : doc.violations = [])
    {t : Declaration} (declared : t ∈ doc.declarations) (condition : t.sec = .condition) :
    t.id ∈ doc.used ↔ doc.Asks t.id := by
  rw [mem_used]
  refine exists_congr fun d => and_congr_right fun member => and_congr_right fun _ => ?_
  rw [Declaration.HangsOn, Declaration.holds_choose]
  constructor
  · rintro ⟨⟨kind, target⟩, named, rfl⟩
    have allowed := target_allowed sound clean member declared named rfl
    rw [condition] at allowed
    rcases List.mem_append.mp named with valued | setting
    · have kinds := Declaration.valueEdges_kind valued
      cases kind with
      | choose => exact .inl valued
      | condition => simp at kinds
      | _ => simp [ReferenceKind.allowed] at allowed
    · exact .inr (Declaration.mem_conditionEdges.mp setting).2
  · rintro (valued | setting)
    · exact ⟨_, List.mem_append_left _ valued, rfl⟩
    · exact ⟨⟨.condition, t.id⟩,
        List.mem_append_right _ (Declaration.mem_conditionEdges.mpr ⟨rfl, setting⟩), rfl⟩

-- Where being used comes to meeting a need, the unused are those that meet none.
theorem unused_eq {doc : Document} {sec : Section} {need : LogicalId → Prop} [DecidablePred need]
    (exactly : ∀ t ∈ doc.declarations, t.sec = sec → (t.id ∈ doc.used ↔ need t.id)) :
    doc.unused sec doc.used = ((doc.ofSection sec).map (·.id)).filter (¬ need ·) := by
  refine List.filter_congr fun id listed => ?_
  obtain ⟨t, found, rfl⟩ := List.mem_map.mp listed
  obtain ⟨declared, inside⟩ := List.mem_filter.mp found
  exact decide_eq_decide.mpr (not_congr (exactly t declared (of_decide_eq_true inside)))

theorem lintOne_eq (doc : Document) (names : List LogicalId) (kind : AdvisoryKind)
    (level : LintLevel) :
    doc.lintOne names kind level =
      if level = .deny ∧ doc.unused kind.sec names ≠ [] then
        .error (.unusedDeclarations kind.sec (doc.unused kind.sec names))
      else .ok (reported kind level (doc.unused kind.sec names)) := by
  unfold lintOne reported
  cases level with
  | allow => simp
  | warn => simp
  | deny =>
    dsimp only
    cases doc.unused kind.sec names <;> simp

-- Whatever unused names may be forbidden for, the error is that they are unused.
theorem lint_error {doc : Document} {used : List LogicalId} {options : LintOptions}
    {e : DocumentError} (refused : doc.lint used options = .error e) :
    ∃ sec ids, e = .unusedDeclarations sec ids := by
  rw [lint, lintOne_eq, lintOne_eq] at refused
  split at refused
  · cases refused
    exact ⟨_, _, rfl⟩
  · split at refused
    · cases refused
      exact ⟨_, _, rfl⟩
    · cases refused

theorem resolve_error {doc : Document} (sound : doc.Sound) {options : LintOptions}
    {e : DocumentError} (refused : doc.resolve options = .error e) :
    e ∈ doc.violations ∨ ∃ sec ids, e = .unusedDeclarations sec ids := by
  rw [resolve_eq sound] at refused
  cases wrong : doc.violations.head? with
  | some first =>
    rw [wrong] at refused
    cases refused
    exact .inl (List.mem_of_head? wrong)
  | none =>
    rw [wrong, settle_none] at refused
    change (doc.lint doc.used options).map doc.image = _ at refused
    cases linted : doc.lint doc.used options with
    | ok advisories =>
      rw [linted] at refused
      cases refused
    | error e =>
      rw [linted] at refused
      cases refused
      exact .inr (lint_error linted)

-- Parameters are judged before conditions, and the first that are forbidden are the error.
theorem lint_verdict {doc : Document} (sound : doc.Sound) (clean : doc.violations = [])
    (options : LintOptions) :
    (doc.lint doc.used options).map doc.image = doc.verdict (doc.image []) options := by
  have parameters : doc.unused .parameter doc.used = doc.idleParameters :=
    unused_eq fun _ => used_parameter sound clean
  have conditions : doc.unused .condition doc.used = doc.idleConditions :=
    unused_eq fun _ => used_condition sound clean
  unfold lint verdict
  rw [lintOne_eq, lintOne_eq]
  simp only [AdvisoryKind.sec, parameters, conditions]
  split
  · rfl
  · split
    · rfl
    · rfl

theorem verdict_strict {doc : Document} {plain : ResolvedDocument} :
    (∃ resolved, doc.verdict plain .strict = .ok resolved) ↔
      doc.idleParameters = [] ∧ doc.idleConditions = [] := by
  unfold verdict
  by_cases parameters : doc.idleParameters = []
  · by_cases conditions : doc.idleConditions = []
    · simp [parameters, conditions]
    · simp [parameters, conditions, LintOptions.strict]
  · simp [parameters, LintOptions.strict]

theorem verdict_default {doc : Document} {plain : ResolvedDocument} :
    (∃ resolved, doc.verdict plain {} = .ok resolved ∧ resolved.advisories = []) ↔
      doc.idleParameters = [] ∧ doc.idleConditions = [] := by
  simp [verdict, reported]

-- An error is the same whatever the options are. A document that resolves is judged by its idle
-- parameters and conditions; strictness accepts what by default goes without remark.
theorem resolve_lint {doc : Document} (reached : doc.Reachable) :
    (∀ e, doc.resolve ⟨.allow, .allow⟩ = .error e → ∀ options, doc.resolve options = .error e) ∧
    (∀ plain, doc.resolve ⟨.allow, .allow⟩ = .ok plain →
      ∀ options, doc.resolve options = doc.verdict plain options) ∧
    ((∃ resolved, doc.resolve .strict = .ok resolved) ↔
      ∃ resolved, doc.resolve {} = .ok resolved ∧ resolved.advisories = []) := by
  have sound := reached.sound
  cases outcome : doc.violations with
  | cons e others =>
    have failed (options : LintOptions) : doc.resolve options = .error e := by
      rw [resolve_eq sound, outcome]
      rfl
    simp [failed]
  | nil =>
    have judged (options : LintOptions) :
        doc.resolve options = doc.verdict (doc.image []) options := by
      rw [resolve_eq sound, outcome]
      exact lint_verdict sound outcome options
    have plain : doc.resolve ⟨.allow, .allow⟩ = .ok (doc.image []) := by
      rw [resolve_allow sound, outcome]
      rfl
    refine ⟨by simp [plain], ?_, ?_⟩
    · intro other resolves
      rw [plain] at resolves
      cases resolves
      exact judged
    · rw [judged, judged, verdict_strict, verdict_default]

-- One parameter is needed by a bucket, the other only by a third, which nothing needs either.
def spare : Document := run (.new "test")
  [ .add (.parameter "size" .string),
    .add (.parameter "name" .string),
    .add (.parameter "label" (ParameterSpec.string.default (.ref "name"))),
    .add (.condition "Large" (.equals (.ref "size") "xl")),
    .add (.resource "Bucket" "AWS::S3::Bucket" [("Size", .list [.base64 (.ref "size")])]) ]

-- An output that names itself.
def looped : Document := run (.new "test") [.add (.output "loop" (.ref "loop"))]

theorem spare_lint : spare.Reachable ∧ spare.resolve ⟨.allow, .allow⟩ = .ok (spare.image []) ∧
    spare.resolve {} = .ok (spare.image [⟨.unusedParameter, "name"⟩, ⟨.unusedParameter, "label"⟩,
      ⟨.unusedCondition, "Large"⟩]) ∧
    spare.resolve ⟨.warn, .deny⟩ = .error (.unusedDeclarations .condition ["Large"]) ∧
    spare.resolve .strict = .error (.unusedDeclarations .parameter ["name", "label"]) ∧
    looped.Reachable ∧ looped.resolve ⟨.allow, .allow⟩ = .error (.selfReference "loop") ∧
    looped.resolve .strict = .error (.selfReference "loop") := by
  have reached : spare.Reachable := (Reachable.empty "test" _).run _
  have plain : spare.resolve ⟨.allow, .allow⟩ = .ok (spare.image []) :=
    (resolve_ok reached.sound).mpr ⟨by decide, [], rfl, rfl⟩
  have judged := (resolve_lint reached).2.1 _ plain
  have parameters : spare.idleParameters = ["name", "label"] := by decide
  have conditions : spare.idleConditions = ["Large"] := by decide
  have circular : looped.Reachable := (Reachable.empty "test" _).run _
  have failed : looped.resolve ⟨.allow, .allow⟩ = .error (.selfReference "loop") := by
    rw [resolve_allow circular.sound, settle_error]
    decide
  refine ⟨reached, plain, ?_, ?_, ?_, circular, failed, (resolve_lint circular).1 _ failed _⟩
  · rw [judged, verdict, parameters, conditions]
    rfl
  · rw [judged, verdict, parameters, conditions]
    rfl
  · rw [judged, verdict, parameters, conditions]
    rfl

end Document

end StackTemplate
