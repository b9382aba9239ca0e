import StackTemplate.Proofs.Registry

namespace StackTemplate

namespace Document

-- Every way to look into a document shows its list of declarations.
structure Agrees (doc : Document) : Prop where
  stored : ∀ i d, doc.declarations[i]? = some d → doc.ids[i]? = some d.id ∧
    doc.find? d.id = some d ∧ doc.position? d.id = some i ∧ doc.contains d.id = true
  absent : ∀ id, id ∉ doc.ids →
    doc.find? id = none ∧ doc.position? id = none ∧ doc.contains id = false
  size : doc.size = doc.declarations.length ∧ doc.ids.length = doc.size
  sections : ∀ sec, (doc.ofSection sec).Sublist doc.declarations ∧
    ∀ d, d ∈ doc.ofSection sec ↔ d ∈ doc.declarations ∧ d.sec = sec

theorem agrees {doc : Document} (sound : doc.Sound) : doc.Agrees where
  stored i d stands := by
    have found : doc.find? d.id = some d :=
      (find?_eq_some sound).mpr ⟨List.mem_of_getElem? stands, rfl⟩
    exact ⟨by simp [ids, stands], found, (position?_eq_some sound).mpr ⟨d, stands, rfl⟩,
      by simp [contains, found]⟩
  absent id unknown := by
    have nothing : doc.find? id = none := find?_none.mpr unknown
    refine ⟨nothing, ?_, by simp [contains, nothing]⟩
    rw [position?, List.findIdx?_eq_none_iff]
    intro d member
    simp only [decide_eq_false_iff_not]
    rintro rfl
    exact unknown (List.mem_map_of_mem member)
  size := ⟨rfl, by simp [ids, Document.size]⟩
  sections sec := ⟨List.filter_sublist, by simp [ofSection]⟩

end Document

inductive Barred (held : List Declaration) (d : Declaration) : DocumentError → Prop where
  | malformed (improper : ¬ d.id.Proper) : Barred held d (.invalidLogicalId d.id)
  | taken (proper : d.id.Proper) (holder : Declaration) (member : holder ∈ held)
      (same : holder.id = d.id) : Barred held d (.duplicateId d.id holder.sec)

-- Nothing bars any declaration of a batch. Its earlier members are held against the later ones,
-- although none of them is stored yet.
def Clear (held batch : List Declaration) : Prop :=
  ∀ before d rest, batch = before ++ d :: rest → ∀ e, ¬ Barred (held ++ before) d e

theorem Clear.nil (held : List Declaration) : Clear held [] := by
  intro before d rest split
  simp at split

theorem Clear.cons {held batch : List Declaration} {d : Declaration}
    (first : ∀ e, ¬ Barred held d e) (others : Clear (held ++ [d]) batch) :
    Clear held (d :: batch) := by
  intro before other rest split e
  cases before with
  | nil =>
    cases split
    simpa using first e
  | cons front before =>
    cases split
    simpa using others before other rest rfl e

theorem not_barred {held : List Declaration} {d : Declaration}
    (accepted : refusal? held [d] = none) (e : DocumentError) : ¬ Barred held d e := by
  obtain ⟨valid, fresh⟩ := Document.refusal?_single.mp accepted
  rintro (improper | ⟨_, holder, member, same⟩)
  · exact improper (LogicalId.isValid_iff.mp valid)
  · exact fresh (List.mem_map.mpr ⟨holder, member, same⟩)

theorem Barred.of_refused {held : List Declaration} {d : Declaration} {e : DocumentError}
    (refused : refusal? held [d] = some e) : Barred held d e := by
  unfold refusal? at refused
  split at refused
  · rename_i valid
    split at refused
    · rename_i holder found
      cases refused
      refine .taken (LogicalId.isValid_iff.mp valid) holder (List.mem_of_find?_eq_some found) ?_
      simpa using List.find?_some found
    · cases refused
  · rename_i invalid
    cases refused
    exact .malformed fun proper => invalid (LogicalId.isValid_iff.mpr proper)

theorem refusal?_none {held batch : List Declaration} (accepted : refusal? held batch = none) :
    Clear held batch := by
  induction batch generalizing held with
  | nil => exact .nil held
  | cons d rest ih =>
    rw [Document.refusal?_cons, Option.or_eq_none_iff] at accepted
    exact .cons (not_barred accepted.1) (ih accepted.2)

theorem refusal?_some {held batch : List Declaration} {e : DocumentError}
    (refused : refusal? held batch = some e) :
    ∃ before d rest, batch = before ++ d :: rest ∧ Clear held before ∧
      Barred (held ++ before) d e := by
  induction batch generalizing held with
  | nil => cases refused
  | cons d rest ih =>
    rw [Document.refusal?_cons, Option.or_eq_some_iff] at refused
    rcases refused with first | ⟨accepted, later⟩
    · refine ⟨[], d, rest, rfl, .nil held, ?_⟩
      rw [List.append_nil]
      exact .of_refused first
    · obtain ⟨before, other, after, rfl, clear, barred⟩ := ih later
      refine ⟨d :: before, other, after, rfl, .cons (not_barred accepted) clear, ?_⟩
      simpa using barred

def Registration.Fits : Registration → Prop
  | .builtResource d => d.sec = .resource
  | _ => True

namespace Document

-- What one operation does to a document, and what it answers.
inductive Turn (doc : Document) : Operation → Document → Except DocumentError Answer → Prop where
  | added (registration : Registration) (fits : registration.Fits)
      (clear : Clear doc.declarations registration.given) :
      Turn doc (.add registration) (doc.append registration.given) (.ok registration.receipt)
  | misfit (d : Declaration) (other : d.sec ≠ .resource) :
      Turn doc (.add (.builtResource d)) doc (.error (.unexpectedSection d.id .resource d.sec))
  | refused (registration : Registration) (fits : registration.Fits)
      (before : List Declaration) (d : Declaration) (rest : List Declaration)
      (split : registration.given = before ++ d :: rest) (clear : Clear doc.declarations before)
      (e : DocumentError) (barred : Barred (doc.declarations ++ before) d e) :
      Turn doc (.add registration) doc (.error e)
  | removed (before : List Declaration) (d : Declaration) (rest : List Declaration)
      (split : doc.declarations = before ++ d :: rest) :
      Turn doc (.remove d.id) { doc with declarations := before ++ rest } (.ok (.removed (some d)))
  | absent (id : LogicalId) (unknown : id ∉ doc.ids) :
      Turn doc (.remove id) doc (.ok (.removed none))

theorem add_turn (doc : Document) (registration : Registration) :
    doc.Turn (.add registration) (doc.after (.add registration))
      ((perform (.add registration)).on doc).1 := by
  -- Where nothing but names is checked, a refusal points at one member of what is given.
  have ordinary (fits : registration.Fits)
      (same : registration.refusal? doc.declarations =
        refusal? doc.declarations registration.given) :
      doc.Turn (.add registration) (doc.after (.add registration))
        ((perform (.add registration)).on doc).1 := by
    rw [after, perform_add, same]
    cases outcome : refusal? doc.declarations registration.given with
    | none => exact .added registration fits (refusal?_none outcome)
    | some e =>
      obtain ⟨before, d, rest, split, clear, barred⟩ := refusal?_some outcome
      exact .refused registration fits before d rest split clear e barred
  cases registration with
  | builtResource d =>
    by_cases resource : d.sec = .resource
    · exact ordinary resource (by simp [Registration.refusal?, Registration.given, resource])
    · have refused : (Registration.builtResource d).refusal? doc.declarations =
          some (.unexpectedSection d.id .resource d.sec) := by
        simp [Registration.refusal?, resource]
      rw [after, perform_add, refused]
      exact .misfit d resource
  | _ => exact ordinary trivial rfl

theorem remove_turn (doc : Document) (id : LogicalId) :
    doc.Turn (.remove id) (doc.after (.remove id)) ((perform (.remove id)).on doc).1 := by
  rw [after, perform_remove]
  cases found : doc.find? id with
  | some d =>
    obtain ⟨named, before, rest, split, others⟩ := List.find?_eq_some_iff_append.mp found
    have named : d.id = id := by simpa using named
    subst named
    have erased : doc.declarations.eraseP (·.id = d.id) = before ++ rest := by
      rw [split, List.eraseP_append_right _ (by simpa using others),
        List.eraseP_cons_of_pos (by simp)]
    rw [erased]
    exact .removed before d rest split
  | none =>
    have kept : doc.declarations.eraseP (·.id = id) = doc.declarations :=
      List.eraseP_of_forall_not (List.find?_eq_none.mp found)
    rw [kept]
    exact .absent id (find?_none.mp found)

theorem perform_turn (doc : Document) (op : Operation) :
    doc.Turn op (doc.after op) ((perform op).on doc).1 := by
  cases op with
  | add registration => exact add_turn doc registration
  | remove id => exact remove_turn doc id

-- An output has no handle: nothing refers to it, so its registration has nothing to return.
theorem receipt_names (registration : Registration) :
    registration.receipt.names = match registration with
      | .output _ _ => []
      | _ => registration.given.map (·.id) := by
  cases registration <;> rfl

-- After any operations on an empty document its names are distinct and proper and every look into
-- it shows the list of its declarations. One more operation takes one of the turns; the receipt of
-- what was added names it, unless it is an output.
theorem run_registry (description formatVersion : String) (ops : List Operation) :
    let doc := Document.run ⟨description, formatVersion, []⟩ ops
    doc.Sound ∧ doc.Agrees ∧
    (∀ op, doc.Turn op ((perform op).on doc).2 ((perform op).on doc).1) ∧
    ∀ registration : Registration, registration.receipt.names = match registration with
      | .output _ _ => []
      | _ => registration.given.map (·.id) := by
  intro doc
  have sound : doc.Sound := run_sound (empty_sound description formatVersion) ops
  exact ⟨sound, agrees sound, perform_turn doc, receipt_names⟩

-- Declaring an output succeeds without returning its name.
theorem output_unnamed :
    ¬ ∀ (ops : List Operation) (registration : Registration) (next : Document) (answer : Answer),
      (perform (.add registration)).on (Document.run (.new "test") ops) = (.ok answer, next) →
        answer.names = registration.given.map (·.id) := by
  intro named
  have declared : (perform (.add (.output "out" "x"))).on (Document.run (.new "test") []) =
      (.ok .done, (Document.new "test").append [.output "out" "x"]) := by
    rw [perform_add]
    rfl
  exact absurd (named [] _ _ _ declared) (by simp [Answer.names, Registration.given])

end Document

end StackTemplate
