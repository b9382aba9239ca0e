import StackTemplate.Proofs.Locality

namespace StackTemplate

def ResolvedDocument.find? (doc : ResolvedDocument) (id : LogicalId) : Option ResolvedDeclaration :=
  doc.declarations.find? (·.id = id)

theorem Section.mem_all (sec : Section) : sec ∈ Section.all := by
  cases sec <;> decide

namespace Document

theorem image_find? (doc : Document) (remarks : List Advisory) (id : LogicalId) :
    (doc.image remarks).find? id = (doc.find? id).map (Declaration.image doc) := by
  rw [ResolvedDocument.find?, image, List.find?_map]
  rfl

section
variable {first second : Document}

-- Names are distinct, so whoever has one has it in any order.
theorem find?_reordered (sound : first.Sound) (other : second.Sound)
    (same : first.declarations.Perm second.declarations) (id : LogicalId) :
    second.find? id = first.find? id := by
  apply Option.ext
  intro d
  rw [find?_eq_some sound, find?_eq_some other, same.mem_iff]

theorem image_reordered (found : ∀ id, second.find? id = first.find? id) (d : Declaration) :
    d.image second = d.image first := by
  apply Declaration.image_congr
  intro edge _
  rw [sectionOf, sectionOf, found]

-- What is right in one order can be wrong in another for one reason only.
theorem judge_reordered (found : ∀ id, second.find? id = first.find? id) {owner : LogicalId}
    {edge : Edge} (clear : first.judge owner edge = none) :
    second.judge owner edge = none ∨
      second.judge owner edge = some (.forwardReference owner edge.target) := by
  unfold judge at clear ⊢
  rw [found edge.target]
  by_cases self : edge.target = owner
  · simp [self] at clear
  · rw [if_neg self] at clear ⊢
    cases declared : first.find? edge.target with
    | none => simp [declared] at clear
    | some t =>
      by_cases allowed : t.sec ∈ edge.kind.allowed
      · by_cases forward : second.ids.idxOf owner < second.ids.idxOf edge.target
        · simp [allowed, forward]
        · simp [allowed, forward]
      · simp [declared, allowed] at clear

theorem violations_reordered (sound : first.Sound) (other : second.Sound)
    (same : first.declarations.Perm second.declarations) (clean : first.violations = [])
    {e : DocumentError} (violated : e ∈ second.violations) :
    ∃ source target, e = .forwardReference source target := by
  have found := find?_reordered sound other same
  obtain ⟨d, member, wrong⟩ := List.mem_flatMap.mp violated
  obtain ⟨shape, clear⟩ := violations_nil.mp clean d (same.mem_iff.mpr member)
  rcases List.mem_append.mp wrong with setting | naming
  · simp [Declaration.shapeError?, shape] at setting
  · obtain ⟨edge, named, judged⟩ := List.mem_filterMap.mp naming
    rcases judge_reordered found (clear edge named) with right | forward
    · rw [right] at judged
      cases judged
    · rw [forward] at judged
      cases judged
      exact ⟨d.id, edge.target, rfl⟩

theorem Precedes.widen {doc : Document} {few many : List Section} {target owner : LogicalId}
    (precedes : doc.Precedes few target owner) (more : few ⊆ many) :
    doc.Precedes many target owner := by
  obtain ⟨before, d, rest, split, named, t, earlier, found, allowed⟩ := precedes
  exact ⟨before, d, rest, split, named, t, earlier, found, more allowed⟩

-- The order is right if what is named stands before what names it, in whatever section it is.
theorem ordered_reordered (sound : first.Sound) (other : second.Sound)
    (same : first.declarations.Perm second.declarations) (clean : first.violations = []) :
    second.violations = [] ↔ ∀ d ∈ second.declarations, ∀ target, d.Names target →
      second.Precedes Section.all target d.id := by
  have found := find?_reordered sound other same
  constructor
  · intro settled d member target names
    obtain ⟨edge, named, rfl⟩ := Declaration.names_iff.mp names
    have earlier := ((violations_nil_iff other).mp settled d member).2 edge named
    exact earlier.widen fun sec _ => sec.mem_all
  · intro ordered
    apply violations_nil.mpr
    intro d member
    obtain ⟨shape, clear⟩ := violations_nil.mp clean d (same.mem_iff.mpr member)
    refine ⟨shape, fun edge named => ?_⟩
    have before := precedes_earlier other
      (ordered d member edge.target (Declaration.names_iff.mpr ⟨edge, named, rfl⟩))
    rcases judge_reordered found (clear edge named) with right | forward
    · exact right
    · have after : second.ids.idxOf d.id < second.ids.idxOf edge.target := by
        unfold judge at forward
        grind
      exact absurd before (Nat.lt_asymm after)

theorem remarks_reordered (same : first.declarations.Perm second.declarations)
    (options : LintOptions) (advisory : Advisory) :
    advisory ∈ first.remarks options ↔ advisory ∈ second.remarks options := by
  simp only [mem_remarks, mem_used, same.mem_iff]

theorem found_reordered (sound : first.Sound) (other : second.Sound)
    (same : first.declarations.Perm second.declarations) (remarks more : List Advisory)
    (id : LogicalId) : (second.image more).find? id = (first.image remarks).find? id := by
  have found := find?_reordered sound other same
  have image : (Declaration.image second) = Declaration.image first :=
    funext (image_reordered found)
  rw [image_find?, image_find?, image, found]

end

-- A document that resolves, put into another order, resolves to the same declarations or has a
-- reference forwards; it resolves exactly if whatever is named stands before what names it. Wherever
-- both resolve, the same is remarked of both.
theorem resolve_reordered {first second : Document} (reached : first.Reachable)
    (again : second.Reachable) (same : first.declarations.Perm second.declarations)
    {plain : ResolvedDocument} (resolves : first.resolve ⟨.allow, .allow⟩ = .ok plain) :
    ((∃ other, second.resolve ⟨.allow, .allow⟩ = .ok other ∧
        other.declarations.map (·.id) = second.ids ∧ ∀ id, other.find? id = plain.find? id) ∨
      ∃ source target, second.resolve ⟨.allow, .allow⟩ = .error (.forwardReference source target)) ∧
    ((∃ other, second.resolve ⟨.allow, .allow⟩ = .ok other) ↔
      ∀ d ∈ second.declarations, ∀ target, d.Names target →
        second.Precedes Section.all target d.id) ∧
    ∀ options one two, first.resolve options = .ok one → second.resolve options = .ok two →
      ∀ advisory, advisory ∈ one.advisories ↔ advisory ∈ two.advisories := by
  have sound := reached.sound
  have other := again.sound
  obtain ⟨clean, rfl⟩ := resolve_image sound resolves
  have verdict := resolve_allow other
  refine ⟨?_, ?_, ?_⟩
  · cases wrong : second.violations.head? with
    | none =>
      rw [wrong] at verdict
      refine .inl ⟨_, verdict, ?_, found_reordered sound other same _ _⟩
      change (second.declarations.map (·.image second)).map (·.id) = _
      rw [List.map_map]
      rfl
    | some e =>
      obtain ⟨source, target, rfl⟩ :=
        violations_reordered sound other same clean (List.mem_of_head? wrong)
      rw [wrong] at verdict
      exact .inr ⟨source, target, verdict⟩
  · rw [← ordered_reordered sound other same clean]
    exact (resolve_verdict again).1
  · intro options one two resolved others advisory
    obtain ⟨_, rfl⟩ := resolve_image sound resolved
    obtain ⟨_, rfl⟩ := resolve_image other others
    exact remarks_reordered same options advisory

def sized : Declaration := .resource "Bucket" "AWS::S3::Bucket" [("Size", .ref "size")]

def lined : Document := run (.new "test")
  [.add (.parameter "size" .string), .add (.parameter "name" .string), .add (.builtResource sized)]

def turned : Document := run (.new "test")
  [.add (.parameter "name" .string), .add (.parameter "size" .string), .add (.builtResource sized)]

-- The bucket before the parameter that it takes.
def crossed : Document := run (.new "test")
  [.add (.parameter "name" .string), .add (.builtResource sized), .add (.parameter "size" .string)]

theorem lined_reordered : lined.Reachable ∧ turned.Reachable ∧ crossed.Reachable ∧
    lined.declarations.Perm turned.declarations ∧ lined.declarations.Perm crossed.declarations ∧
    lined.resolve ⟨.allow, .allow⟩ = .ok (lined.image []) ∧
    (∃ other, turned.resolve ⟨.allow, .allow⟩ = .ok other ∧
      other.declarations.map (·.id) = turned.ids ∧
      ∀ id, other.find? id = (lined.image []).find? id) ∧
    crossed.resolve ⟨.allow, .allow⟩ = .error (.forwardReference "Bucket" "size") ∧
    ¬ ∀ d ∈ crossed.declarations, ∀ target, d.Names target →
      crossed.Precedes Section.all target d.id := by
  have reached : lined.Reachable := (Reachable.empty "test" _).run _
  have again : turned.Reachable := (Reachable.empty "test" _).run _
  have across : crossed.Reachable := (Reachable.empty "test" _).run _
  have swapped : lined.declarations.Perm turned.declarations := .swap _ _ _
  have moved : lined.declarations.Perm crossed.declarations :=
    swapped.trans (.cons _ (.swap _ _ _))
  have resolves : lined.resolve ⟨.allow, .allow⟩ = .ok (lined.image []) :=
    (resolve_ok reached.sound).mpr ⟨by decide, [], rfl, rfl⟩
  have settles : turned.resolve ⟨.allow, .allow⟩ = .ok (turned.image []) :=
    (resolve_ok again.sound).mpr ⟨by decide, [], rfl, rfl⟩
  have fails : crossed.resolve ⟨.allow, .allow⟩ = .error (.forwardReference "Bucket" "size") := by
    rw [resolve_allow across.sound, settle_error]
    decide
  refine ⟨reached, again, across, swapped, moved, resolves, ?_, fails, ?_⟩
  · apply (resolve_reordered reached again swapped resolves).1.resolve_right
    rintro ⟨source, target, failed⟩
    rw [settles] at failed
    cases failed
  · intro ordered
    obtain ⟨other, succeeds⟩ := (resolve_reordered reached across moved resolves).2.1.mpr ordered
    rw [fails] at succeeds
    cases succeeds

end Document

end StackTemplate
