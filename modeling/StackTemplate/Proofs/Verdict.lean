import Mathlib.Data.List.Forall2
import StackTemplate.Proofs.Edge

namespace StackTemplate

namespace Declaration

-- What the values of a declaration name, then what its settings name.
def valueEdges (d : Declaration) : List Edge :=
  Value.entryEdges d.attributes ++ (d.updatePolicy.map Value.edges).getD []

def conditionEdges (d : Declaration) : List Edge := d.condition.toList.map (⟨.condition, ·⟩)

def edges (d : Declaration) : List Edge :=
  d.valueEdges ++ d.conditionEdges ++ d.dependsOn.map (⟨.dependsOn, ·⟩)

def shapeError? (d : Declaration) : Option DocumentError :=
  d.misplaced?.map (.unsupportedAttribute d.id d.sec)

-- Everything that is set has a place in the section of the declaration.
@[mk_iff]
structure Placed (d : Declaration) : Prop where
  dependsOn : d.sec ≠ .resource → d.dependsOn = []
  updatePolicy : d.sec ≠ .resource → d.updatePolicy = none
  deletionPolicy : d.sec ≠ .resource → d.deletionPolicy = none
  condition : d.sec = .parameter ∨ d.sec = .condition → d.condition = none
  expression : d.sec = .condition → ∀ key ∈ Entries.keys d.attributes, key = expressionKey
  output : d.sec = .output →
    ∀ key ∈ Entries.keys d.attributes, key ∈ ["Value", "Description", "Export"]

def violations (doc : Document) (d : Declaration) : List DocumentError :=
  d.shapeError?.toList ++ d.edges.filterMap (doc.judge d.id)

def namedResources (doc : Document) (d : Declaration) : List LogicalId :=
  (d.valueEdges.map (·.target)).filter (doc.sectionOf · = .resource)

-- What becomes of a declaration with which nothing is wrong.
def image (doc : Document) (d : Declaration) : ResolvedDeclaration where
  id := d.id
  sec := d.sec
  kind := d.kind
  attributes := Value.entryImages d.attributes
  dependsOn :=
    if d.sec = .resource then extendListed d.dependsOn (d.namedResources doc) else []
  condition := d.condition
  updatePolicy := d.updatePolicy.map Value.image
  deletionPolicy := d.deletionPolicy

-- The names that a declaration puts to use; parameters use nothing.
def used (d : Declaration) : List LogicalId :=
  if d.sec = .parameter then [] else (d.valueEdges ++ d.conditionEdges).map (·.target)

end Declaration

namespace Document

def violations (doc : Document) : List DocumentError :=
  doc.declarations.flatMap (·.violations doc)

def used (doc : Document) : List LogicalId := doc.declarations.flatMap (·.used)

def image (doc : Document) (advisories : List Advisory) : ResolvedDocument where
  description := doc.description
  formatVersion := doc.formatVersion
  declarations := doc.declarations.map (·.image doc)
  advisories := advisories

end Document

namespace Scope

theorem value?_eq {scope : Scope} (stands : scope.Stands) (setting : Option Value) :
    scope.value? setting =
      settle (scope.firstWrong ((setting.map Value.edges).getD []))
        (setting.map Value.image, scope.uses ((setting.map Value.edges).getD [])) := by
  cases setting with
  | none => rfl
  | some v =>
    rw [value?, value_eq stands v]
    exact settle_then rfl

theorem condition?_eq {scope : Scope} (stands : scope.Stands) (setting : Option LogicalId) :
    scope.condition? setting =
      settle (scope.firstWrong (setting.toList.map (⟨.condition, ·⟩)))
        (scope.uses (setting.toList.map (⟨.condition, ·⟩))) := by
  cases setting with
  | none => rfl
  | some name =>
    have named := lookup_eq stands ⟨.condition, name⟩
    dsimp only at named
    rw [condition?, named, Option.toList_some, List.map_singleton, firstWrong_cons]
    exact settle_bind rfl

theorem dependencies_eq {scope : Scope} (stands : scope.Stands) (ids : List LogicalId) :
    scope.dependencies ids = settle (scope.firstWrong (ids.map (⟨.dependsOn, ·⟩))) () := by
  induction ids with
  | nil => rfl
  | cons id rest ih =>
    have named := lookup_eq stands ⟨.dependsOn, id⟩
    dsimp only at named
    rw [dependencies, named, ih, List.map_cons, firstWrong_cons]
    exact settle_bind rfl

end Scope

namespace Declaration

theorem misplaced_none {d : Declaration} : d.misplaced? = none ↔ d.Placed := by
  have passed {wrong : Prop} [Decidable wrong] (setting : String) (others : Option String) :
      (if wrong then some setting else others) = none ↔ ¬ wrong ∧ others = none := by
    by_cases given : wrong
    · simp [given]
    · simp [given]
  simp only [misplaced?, passed, placed_iff]
  cases sec : d.sec with
  | parameter => simp [passed]
  | condition => simp [passed]
  | resource => simp
  | output => simp [or_iff_not_imp_left]

theorem checkShape_eq (d : Declaration) : d.checkShape = settle d.shapeError? () := by
  unfold checkShape shapeError?
  cases d.misplaced? <;> rfl

theorem head_violations (doc : Document) (d : Declaration) :
    (d.violations doc).head? = d.shapeError?.or (d.edges.findSome? (doc.judge d.id)) := by
  rw [violations, List.head?_append, List.head?_filterMap, Option.head?_toList]

theorem edges_verdict (scope : Scope) (d : Declaration) :
    scope.firstWrong d.edges =
      (scope.firstWrong (Value.entryEdges d.attributes)).or
        ((scope.firstWrong ((d.updatePolicy.map Value.edges).getD [])).or
          ((scope.firstWrong d.conditionEdges).or
            (scope.firstWrong (d.dependsOn.map (⟨.dependsOn, ·⟩))))) := by
  simp only [edges, valueEdges, Scope.firstWrong_append, Option.or_assoc]

theorem resources_eq (doc : Document) (d : Declaration) :
    ((d.valueEdges.map doc.use).filter (·.sec = .resource)).map (·.target) =
      d.namedResources doc := by
  unfold namedResources
  rw [List.filter_map, List.map_map, List.filter_map]
  rfl

theorem resolve_eq {doc : Document} {d : Declaration} {position : Nat}
    (stands : Scope.Stands ⟨doc, d, position⟩) :
    d.resolve doc position = settle (d.violations doc).head? (d.image doc, d.used) := by
  have verdict := edges_verdict ⟨doc, d, position⟩ d
  unfold Scope.firstWrong at verdict
  rw [head_violations, verdict]
  unfold resolve
  rw [checkShape_eq]
  simp only [Scope.entries_eq stands, Scope.value?_eq stands, Scope.condition?_eq stands,
    Scope.dependencies_eq stands]
  refine settle_bind (settle_bind (settle_bind (settle_bind (settle_then ?_))))
  have named : Scope.uses ⟨doc, d, position⟩ (Value.entryEdges d.attributes) ++
      Scope.uses ⟨doc, d, position⟩ ((d.updatePolicy.map Value.edges).getD []) =
      d.valueEdges.map doc.use := (Scope.uses_append _ _ _).symm
  have everything : (d.valueEdges.map doc.use ++
      Scope.uses ⟨doc, d, position⟩ d.conditionEdges).map (·.target) =
      (d.valueEdges ++ d.conditionEdges).map (·.target) := by
    rw [Scope.uses, ← List.map_append, List.map_map]
    rfl
  unfold conditionEdges at everything
  simp only [named, resources_eq, everything]
  rfl

end Declaration

namespace Document

theorem resolveFrom_eq {doc : Document} (sound : doc.Sound) (before rest : List Declaration)
    (split : doc.declarations = before ++ rest) :
    doc.resolveFrom before.length rest =
      settle (rest.flatMap (·.violations doc)).head?
        (rest.map (·.image doc), rest.flatMap (·.used)) := by
  -- What has been walked over counts as many as the position of the next owner says.
  induction rest generalizing before with
  | nil => rfl
  | cons d rest ih =>
    have stands : Scope.Stands ⟨doc, d, before.length⟩ := ⟨sound, by simp [split]⟩
    have later := ih (before ++ [d]) (by simp [split])
    rw [List.length_append, List.length_singleton] at later
    rw [resolveFrom, Declaration.resolve_eq stands, later, List.flatMap_cons, List.head?_append]
    exact settle_bind (settle_then rfl)

theorem resolve_eq {doc : Document} (sound : doc.Sound) (options : LintOptions) :
    doc.resolve options =
      settle doc.violations.head? doc.used >>= fun used =>
        (doc.lint used options).map doc.image := by
  unfold resolve
  rw [show (0 : Nat) = ([] : List Declaration).length from rfl, resolveFrom_eq sound [] _ rfl]
  change _ = settle (doc.declarations.flatMap (·.violations doc)).head? _ >>= _
  cases (doc.declarations.flatMap (·.violations doc)).head? with
  | some e => rfl
  | none => cases doc.lint doc.used options <;> rfl

theorem resolve_ok {doc : Document} (sound : doc.Sound) {options : LintOptions}
    {resolved : ResolvedDocument} :
    doc.resolve options = .ok resolved ↔
      doc.violations = [] ∧ ∃ advisories, doc.lint doc.used options = .ok advisories ∧
        resolved = doc.image advisories := by
  rw [resolve_eq sound, bind_ok, ← List.head?_eq_none_iff]
  simp only [settle_ok, map_ok]
  constructor
  · rintro ⟨_, ⟨clear, rfl⟩, advisories, linted, rfl⟩
    exact ⟨clear, advisories, linted, rfl⟩
  · rintro ⟨clear, advisories, linted, rfl⟩
    exact ⟨_, ⟨clear, rfl⟩, advisories, linted, rfl⟩

theorem violations_nil {doc : Document} :
    doc.violations = [] ↔ ∀ d ∈ doc.declarations,
      d.misplaced? = none ∧ ∀ edge ∈ d.edges, doc.judge d.id edge = none := by
  simp [violations, Declaration.violations, Declaration.shapeError?, List.flatMap_eq_nil_iff,
    List.filterMap_eq_nil_iff]

theorem mem_violations {doc : Document} {e : DocumentError} :
    e ∈ doc.violations ↔ ∃ d ∈ doc.declarations,
      (∃ setting, d.misplaced? = some setting ∧ .unsupportedAttribute d.id d.sec setting = e) ∨
        ∃ edge ∈ d.edges, doc.judge d.id edge = some e := by
  simp [violations, Declaration.violations, Declaration.shapeError?]

-- What holds of the image of every declaration with which nothing is wrong holds of all that a
-- resolution gives, in the order of registration.
theorem resolve_forall {doc : Document} (sound : doc.Sound) {options : LintOptions}
    {resolved : ResolvedDocument} (resolves : doc.resolve options = .ok resolved)
    {related : Declaration → ResolvedDeclaration → Prop}
    (each : ∀ d ∈ doc.declarations, (∀ edge ∈ d.edges, doc.judge d.id edge = none) →
      related d (d.image doc)) :
    List.Forall₂ related doc.declarations resolved.declarations := by
  obtain ⟨clean, advisories, _, rfl⟩ := (resolve_ok sound).mp resolves
  refine List.forall₂_map_right_iff.mpr (List.forall₂_same.mpr fun d member => ?_)
  exact each d member (violations_nil.mp clean d member).2

-- With nothing to say about unused declarations only the violations count.
theorem resolve_allow {doc : Document} (sound : doc.Sound) :
    doc.resolve ⟨.allow, .allow⟩ = settle doc.violations.head? (doc.image []) := by
  rw [resolve_eq sound]
  exact settle_then rfl

-- Resolution that tolerates what is unused succeeds exactly when no violation is listed, and fails
-- with the first that is.
theorem resolve_verdict {doc : Document} (reached : doc.Reachable) :
    ((∃ resolved, doc.resolve ⟨.allow, .allow⟩ = .ok resolved) ↔ doc.violations = []) ∧
    ∀ e, doc.resolve ⟨.allow, .allow⟩ = .error e ↔ doc.violations.head? = some e := by
  rw [resolve_allow reached.sound]
  refine ⟨?_, fun e => settle_error⟩
  rw [← List.head?_eq_none_iff]
  constructor
  · rintro ⟨resolved, succeeded⟩
    exact (settle_ok.mp succeeded).1
  · intro nothing
    exact ⟨doc.image [], by rw [nothing, settle_none]⟩

-- Two outputs with several faults each: what counts is the first fault of the first.
def faulty : Document := run (.new "test")
  [ .add (.parameter "size" .string),
    .add (.output "early" (.list [.ref "size", .base64 (.getAtt "Late" "Arn"), .ref "early"])),
    .add (.output "lost" (.choose "size" (.ref "Nobody") "x")),
    .add (.resource "Late" "AWS::S3::Bucket" []) ]

theorem faulty_verdict : faulty.Reachable ∧
    faulty.violations.length = 4 ∧
    faulty.resolve ⟨.allow, .allow⟩ = .error (.forwardReference "early" "Late") := by
  have reached : faulty.Reachable := (Reachable.empty "test" _).run _
  exact ⟨reached, by decide, ((resolve_verdict reached).2 _).mpr (by decide)⟩

end Document

end StackTemplate
