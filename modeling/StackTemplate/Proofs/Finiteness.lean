import StackTemplate.Proofs.Building
import StackTemplate.Proofs.Layout
import StackTemplate.Proofs.Occurrence

namespace StackTemplate

def Binary64.NonFinite (x : Binary64) : Prop :=
  x.isNaN = true ∨ ∃ negative, x = .infinity negative

-- The fractions of a declaration in the order of its entry. The expression of a condition is the
-- entry itself.
def Declaration.places (d : Declaration) : List (String × Binary64) :=
  match d.sec with
  | .condition => d.attributes.flatMap fun entry => entry.2.places
  | .resource => under ".UpdatePolicy" ((d.updatePolicy.map Value.places).getD []) ++
      under ".Properties" (Value.entryPlaces d.attributes)
  | _ => Value.entryPlaces d.attributes

-- The fractions of a document in the order of its template.
def Document.places (doc : Document) : List (String × Binary64) :=
  Template.headings.flatMap fun heading => (doc.ofSection heading.1).flatMap fun d =>
    under (heading.2 ++ "." ++ d.id.text) d.places

namespace Binary64

theorem word_lt (x : Binary64) : x.word < twoPow 64 := x.bits.toNat_lt

theorem word_eq {x y : Binary64} (same : x.word = y.word) : x = y := by
  cases x
  cases y
  exact congrArg mk (UInt64.toNat_inj.mp same)

theorem infinity_word (negative : Bool) :
    (infinity negative).word = (if negative then twoPow 63 else 0) + infinityMagnitude := by
  cases negative <;> rfl

theorem nonFinite_iff {x : Binary64} : x.NonFinite ↔ x.isFinite = false := by
  unfold NonFinite
  constructor
  · rintro (undefined | ⟨negative, rfl⟩)
    · simp only [isNaN, Bool.and_eq_true, beq_iff_eq] at undefined
      simp [isFinite, undefined.1]
    · cases negative <;> rfl
  · intro wrong
    have top : x.exponentField = 2047 := by simpa [isFinite] using wrong
    by_cases zero : x.fraction = 0
    · right
      refine ⟨x.isNegative, word_eq ?_⟩
      have bound := x.word_lt
      rw [infinity_word, isNegative, infinityMagnitude]
      simp only [exponentField, fraction, twoPow, Nat.pow_eq] at top zero bound ⊢
      by_cases sign : 2 ^ 63 ≤ x.word
      · simp only [sign, decide_true, if_true]
        omega
      · simp only [sign, decide_false, Bool.false_eq_true, if_false]
        omega
    · left
      simp [isNaN, top, zero]

end Binary64

namespace Value

def fraction? : Value → Option Binary64
  | .number (.float x) => some x
  | _ => none

mutual

theorem fractions_nodes : ∀ v : Value, v.fractions = v.nodes.filterMap fraction?
  | .string _ => rfl
  | .number (.int _) => rfl
  | .number (.float _) => rfl
  | .bool _ => rfl
  | .pseudo _ => rfl
  | .ref _ => rfl
  | .getAtt _ _ => rfl
  | .list vs => itemFractions_nodes vs
  | .map vs => entryFractions_nodes vs
  | .join _ vs => itemFractions_nodes vs
  | .choose _ a b => by
    rw [fractions, nodes, List.filterMap_cons, List.filterMap_append, fractions_nodes a,
      fractions_nodes b]
    rfl
  | .equals a b => by
    rw [fractions, nodes, List.filterMap_cons, List.filterMap_append, fractions_nodes a,
      fractions_nodes b]
    rfl
  | .base64 v => fractions_nodes v

theorem itemFractions_nodes : ∀ vs : List Value,
    itemFractions vs = (itemNodes vs).filterMap fraction?
  | [] => rfl
  | v :: vs => by
    rw [itemFractions, itemNodes, List.filterMap_append, fractions_nodes v, itemFractions_nodes vs]

theorem entryFractions_nodes : ∀ vs : List (String × Value),
    entryFractions vs = (entryNodes vs).filterMap fraction?
  | [] => rfl
  | (_, v) :: vs => by
    rw [entryFractions, entryNodes, List.filterMap_append, fractions_nodes v,
      entryFractions_nodes vs]

end

theorem mem_fractions {v : Value} {x : Binary64} :
    x ∈ v.fractions ↔ (number (.float x)).Within v := by
  rw [fractions_nodes, List.mem_filterMap, ← mem_nodes]
  constructor
  · rintro ⟨node, member, names⟩
    cases node with
    | number n =>
      cases n with
      | int n => cases names
      | float y =>
        cases names
        exact member
    | _ => cases names
  · intro member
    exact ⟨_, member, rfl⟩

end Value

namespace Declaration

theorem mem_fractions {d : Declaration} {x : Binary64} :
    x ∈ d.fractions ↔ d.Holds (.number (.float x)) := by
  unfold fractions Holds
  rw [List.mem_append, Value.entryFractions_eq, List.mem_flatMap]
  refine or_congr ?_ ?_
  · simp only [Value.mem_fractions]
  · cases d.updatePolicy <;> simp [Value.mem_fractions]

theorem places_fractions {d : Declaration} (shape : d.misplaced? = none) {x : Binary64} :
    x ∈ d.places.map (·.2) ↔ x ∈ d.fractions := by
  unfold places fractions
  cases sec : d.sec with
  | parameter =>
    have none := (misplaced_none.mp shape).updatePolicy (by simp [sec])
    simp [none, Value.entryPlaces_fractions]
  | condition =>
    have none := (misplaced_none.mp shape).updatePolicy (by simp [sec])
    simp only [none, List.map_flatMap, Value.places_fractions, Value.entryFractions_eq]
    simp
  | resource =>
    cases d.updatePolicy <;>
      simp [under_fractions, Value.entryPlaces_fractions, Value.places_fractions, or_comm]
  | output =>
    have none := (misplaced_none.mp shape).updatePolicy (by simp [sec])
    simp [none, Value.entryPlaces_fractions]

def Expressed (d : Declaration) : Prop :=
  d.sec = .condition →
    Entries.Distinct d.attributes ∧ expressionKey ∈ Entries.keys d.attributes

theorem Blank.expressed (blank : Blank) : blank.declaration.Expressed := by
  intro condition
  cases blank with
  | condition id expression => exact ⟨List.nodup_singleton _, List.mem_singleton_self _⟩
  | _ => cases condition

theorem Expressed.setAttribute {d : Declaration} (expressed : d.Expressed) (key : String)
    (value : Value) : (d.setAttribute key value).Expressed := by
  intro condition
  obtain ⟨distinct, expression⟩ := expressed condition
  refine ⟨Entries.distinct_insert distinct key value, ?_⟩
  rw [Declaration.setAttribute, Entries.keys_insert]
  split
  · exact expression
  · exact List.mem_append_left _ expression

-- No call takes the expression away: calls write attributes and set everything else beside them.
theorem Expressed.call {d : Declaration} (expressed : d.Expressed) (call : Call) :
    (d.call call).Expressed := by
  match call with
  | .attribute key value => exact expressed.setAttribute key value
  | .describe text => exact expressed.setAttribute _ _
  | .publish name => exact expressed.setAttribute _ _
  | .after id =>
    rw [Declaration.call, Declaration.after]
    split
    · exact expressed
    · exact expressed
  | .onlyIf condition => exact expressed
  | .updatePolicy policy => exact expressed
  | .deletionPolicy policy => exact expressed

theorem Expressed.calls {d : Declaration} (expressed : d.Expressed) (calls : List Call) :
    (calls.foldl Declaration.call d).Expressed := by
  induction calls generalizing d with
  | nil => exact expressed
  | cons first rest ih => exact ih (expressed.call first)

theorem Built.expressed {d : Declaration} (built : d.Built) : d.Expressed := by
  obtain ⟨calls, blank, rfl⟩ := built
  exact blank.expressed.calls calls

-- What else a call wrote into a condition is refused for its shape, so its expression is all it has.
theorem condition_attributes {d : Declaration} (built : d.Built) (shape : d.misplaced? = none)
    (condition : d.sec = .condition) :
    ∃ expression, d.attributes = [(expressionKey, expression)] := by
  obtain ⟨distinct, present⟩ := built.expressed condition
  have only : ∀ entry ∈ d.attributes, entry.1 = expressionKey := fun entry member =>
    (misplaced_none.mp shape).expression condition _ (List.mem_map_of_mem member)
  cases written : d.attributes with
  | nil => simp [written, Entries.keys] at present
  | cons first rest =>
    rw [written] at only distinct
    obtain ⟨here, later⟩ := List.forall_mem_cons.mp only
    cases rest with
    | nil => exact ⟨first.2, by rw [← here]⟩
    | cons second more =>
      have fresh := (List.nodup_cons.mp distinct).1
      have repeated : first.1 = second.1 := here.trans (later second List.mem_cons_self).symm
      exact absurd (List.mem_cons.mpr (.inl repeated)) fresh

theorem place_text (doc : Document) (d : Declaration) :
    (d.image doc).place.text = d.sec.key ++ "." ++ d.id.text := String.append_empty

theorem image_told (doc : Document) {d : Declaration} (built : d.Built)
    (shape : d.misplaced? = none) :
    Told (d.image doc).faults (under (d.sec.key ++ "." ++ d.id.text) d.places) := by
  have sec : (d.image doc).sec = d.sec := rfl
  have members (path : Path) : Told (ResolvedValue.memberFaults path (d.image doc).attributes)
      (under path.text (Value.entryPlaces d.attributes)) := Value.entries_told path d.attributes
  rw [← place_text doc, ResolvedDeclaration.faults, sec]
  unfold places
  cases given : d.sec with
  | parameter => exact members _
  | output => exact members _
  | condition =>
    obtain ⟨expression, written⟩ := condition_attributes built shape given
    have found : (d.image doc).expression? = some expression.image := by
      rw [ResolvedDeclaration.expression?, image, Value.find?_entryImages, written]
      rfl
    have told := Value.image_told (d.image doc).place expression
    simpa [found, written] using told
  | resource =>
    have policy : Told (d.image doc).policyFaults (under ((d.image doc).place.text ++
        ".UpdatePolicy") ((d.updatePolicy.map Value.places).getD [])) := by
      have imaged : (d.image doc).updatePolicy = d.updatePolicy.map Value.image := rfl
      unfold ResolvedDeclaration.policyFaults
      rw [imaged]
      cases d.updatePolicy with
      | none => exact .nil
      | some v =>
        have told := Value.image_told ((d.image doc).place.member "UpdatePolicy") v
        rw [Path.text_member] at told
        exact told
    have properties := members ((d.image doc).place.member "Properties")
    rw [Path.text_member] at properties
    dsimp only
    rw [under_append, under_under, under_under]
    exact policy.append properties

end Declaration

namespace Document

theorem image_told {doc : Document} (authored : doc.Authored)
    (shapes : ∀ d ∈ doc.declarations, d.misplaced? = none) (advisories : List Advisory) :
    Told ((doc.image advisories).faults Section.all) doc.places := by
  have listed : Template.headings = Section.all.map fun sec => (sec, sec.key) := rfl
  unfold ResolvedDocument.faults places
  rw [listed, List.flatMap_map]
  refine .flatMap fun sec _ => ?_
  rw [image_ofSection, List.flatMap_map]
  refine .flatMap fun d member => ?_
  obtain ⟨declared, found⟩ := List.mem_filter.mp member
  have told := Declaration.image_told doc (authored.built d declared) (shapes d declared)
  rwa [of_decide_eq_true found] at told

theorem mem_places {doc : Document} {x : Binary64}
    (shapes : ∀ d ∈ doc.declarations, d.misplaced? = none) :
    x ∈ doc.places.map (·.2) ↔ ∃ d ∈ doc.declarations, d.Holds (.number (.float x)) := by
  have sections (d : Declaration) : ∃ key, (d.sec, key) ∈ Template.headings := by
    cases d.sec <;> simp [Template.headings]
  unfold places
  simp only [List.map_flatMap, under_fractions, List.mem_flatMap]
  constructor
  · rintro ⟨heading, _, d, member, there⟩
    have declared := List.mem_of_mem_filter member
    exact ⟨d, declared, Declaration.mem_fractions.mp
      ((Declaration.places_fractions (shapes d declared)).mp there)⟩
  · rintro ⟨d, declared, holds⟩
    obtain ⟨key, listed⟩ := sections d
    refine ⟨_, listed, d, List.mem_filter.mpr ⟨declared, decide_eq_true rfl⟩, ?_⟩
    exact (Declaration.places_fractions (shapes d declared)).mpr
      (Declaration.mem_fractions.mpr holds)

def FirstNonFinite (doc : Document) (e : TemplateError) : Prop :=
  ∃ before path x after, doc.places = before ++ (path.text, x) :: after ∧
    (∀ place ∈ before, ¬ place.2.NonFinite) ∧ x.NonFinite ∧ e = .nonFinite path x

theorem faults_nil {doc : Document} (authored : doc.Authored)
    (shapes : ∀ d ∈ doc.declarations, d.misplaced? = none) (advisories : List Advisory) :
    (doc.image advisories).faults Section.all = [] ↔
      ¬ ∃ d ∈ doc.declarations, ∃ x : Binary64, x.NonFinite ∧ d.Holds (.number (.float x)) := by
  rw [(image_told authored shapes advisories).clear]
  constructor
  · rintro finite ⟨d, declared, x, wrong, holds⟩
    obtain ⟨place, member, rfl⟩ :=
      List.mem_map.mp ((mem_places shapes).mpr ⟨d, declared, holds⟩)
    rw [Binary64.nonFinite_iff, finite place member] at wrong
    cases wrong
  · intro clean place member
    by_contra wrong
    obtain ⟨d, declared, holds⟩ := (mem_places shapes).mp (List.mem_map_of_mem member)
    exact clean ⟨d, declared, _, Binary64.nonFinite_iff.mpr (by simpa using wrong), holds⟩

theorem assemble_template {doc : Document} {lint : LintOptions} {resolved : ResolvedDocument}
    (resolves : doc.resolve lint = .ok resolved) (options : TemplateOptions) (e : AssemblyError) :
    doc.assemble ⟨lint, options⟩ = .error e ↔
      ∃ cause, resolved.template options = .error cause ∧ e = .template cause := by
  unfold assemble
  rw [resolves]
  cases written : resolved.template options with
  | error cause => simp [written, Except.mapError, eq_comm]
  | ok tree => simp [written, Except.mapError]

-- Once a document resolves, nothing but a number that is not finite keeps it from being written, and
-- the first of them is the error. A condition never lacks its expression.
theorem template_nonFinite {doc : Document} {lint : LintOptions} {resolved : ResolvedDocument}
    (authored : doc.Authored) (resolves : doc.resolve lint = .ok resolved)
    (options : TemplateOptions) :
    ((∃ e, resolved.template options = .error e) ↔
      ∃ d ∈ doc.declarations, ∃ x : Binary64, x.NonFinite ∧ d.Holds (.number (.float x))) ∧
    (∀ e, resolved.template options = .error e →
      doc.FirstNonFinite e ∧ ∀ path, e ≠ .noExpression path) ∧
    ∀ e, doc.assemble ⟨lint, options⟩ = .error e ↔
      ∃ cause, resolved.template options = .error cause ∧ e = .template cause := by
  obtain ⟨clean, advisories, _, rfl⟩ := (resolve_ok authored.reachable.sound).mp resolves
  have shapes (d : Declaration) (member : d ∈ doc.declarations) : d.misplaced? = none :=
    (violations_nil.mp clean d member).1
  have failed (e : TemplateError) : (doc.image advisories).template options = .error e ↔
      ((doc.image advisories).faults Section.all).head? = some e := by
    rw [ResolvedDocument.template_eq, settle_error]
  refine ⟨?_, ?_, assemble_template resolves options⟩
  · simp only [failed]
    rw [← not_iff_not, ← faults_nil authored shapes advisories,
      ← List.head?_eq_none_iff, Option.eq_none_iff_forall_ne_some]
    exact not_exists
  · intro e fails
    obtain ⟨before, path, x, after, split, finite, wrong, rfl⟩ :=
      (image_told authored shapes advisories).first ((failed e).mp fails)
    refine ⟨⟨before, path, x, after, split, ?_, Binary64.nonFinite_iff.mpr wrong, rfl⟩, ?_⟩
    · intro place member bad
      rw [Binary64.nonFinite_iff, finite place member] at bad
      cases bad
    · intro other same
      cases same

-- The output is registered first and written last; the condition, which is registered last, is what
-- the error is about.
def overflowing : Document := run (.new "test")
  [ .add (.output "Load" (.map [("Peak", .number (.float (.infinity true)))])),
    .add (.builtResource ((Declaration.resource "Queue" "AWS::SQS::Queue"
      [("Rate", .join "-" ["of", .number (.float .nan)])]).withUpdatePolicy
        (.base64 (.list [true, .number (.float (.infinity false))])))),
    .add (.parameter "size" (ParameterSpec.number.default (.number (.float ⟨0⟩)))),
    .add (.condition "Large" (.equals (.ref "size") (.number (.float .nan)))) ]

theorem overflowing_nonFinite : overflowing.Authored ∧
    overflowing.resolve ⟨.allow, .allow⟩ = .ok (overflowing.image []) ∧
    overflowing.places = [("Parameters.size.Default", ⟨0⟩), ("Conditions.Large.Fn::Equals[1]", .nan),
      ("Resources.Queue.UpdatePolicy.Fn::Base64[1]", .infinity false),
      ("Resources.Queue.Properties.Rate.Fn::Join[1]", .nan),
      ("Outputs.Load.Value.Peak", .infinity true)] ∧
    (∃ d ∈ overflowing.declarations, ∃ x : Binary64, x.NonFinite ∧ d.Holds (.number (.float x))) ∧
    ∃ e, (overflowing.image []).template {} = .error e ∧ overflowing.FirstNonFinite e ∧
      overflowing.assemble ⟨⟨.allow, .allow⟩, {}⟩ = .error (.template e) ∧
      e.message =
        "unserializable value at Conditions.Large.Fn::Equals[1]: non-finite number NaN" := by
  have authored : overflowing.Authored := by
    refine (Authored.empty "test" _).run ?_
    simp only [List.forall_mem_cons, Operation.Built, Registration.given, List.not_mem_nil,
      false_imp_iff, implies_true, and_true]
    exact ⟨⟨[], .output _ _, rfl⟩, ⟨[.updatePolicy _], .resource _ _ _, rfl⟩,
      ⟨[], .parameter _ _, rfl⟩, ⟨[], .condition _ _, rfl⟩⟩
  have resolves : overflowing.resolve ⟨.allow, .allow⟩ = .ok (overflowing.image []) :=
    (resolve_ok authored.reachable.sound).mpr ⟨by decide, [], by decide, rfl⟩
  obtain ⟨fails, first, assembled⟩ := template_nonFinite authored resolves {}
  have failed : (overflowing.image []).template {} =
      .error (.nonFinite ⟨.condition, "Large", [.member "Fn::Equals", .item 1]⟩ .nan) := by
    rw [ResolvedDocument.template_eq, settle_error]
    decide
  refine ⟨authored, resolves, by decide, fails.mp ⟨_, failed⟩, _, failed, (first _ failed).1,
    (assembled _).mpr ⟨_, failed, rfl⟩, by decide⟩

end Document

end StackTemplate
