import StackTemplate.Proofs.Registry

namespace StackTemplate.Document

-- All of the declarations enter, each into the document that the one before it left.
inductive Succession : Document → List Declaration → Document → List LogicalId → Prop where
  | done (doc : Document) : Succession doc [] doc []
  | next {doc middle last : Document} {d : Declaration} {rest : List Declaration} {id : LogicalId}
      {ids : List LogicalId} (entered : (register d).on doc = (.ok id, middle))
      (others : Succession middle rest last ids) : Succession doc (d :: rest) last (id :: ids)

-- So many of the declarations enter, and the one after them is refused.
inductive Stops : Document → List Declaration → Nat → DocumentError → Prop where
  | here {doc left : Document} {d : Declaration} {e : DocumentError} (rest : List Declaration)
      (refused : (register d).on doc = (.error e, left)) : Stops doc (d :: rest) 0 e
  | later {doc middle : Document} {d : Declaration} {rest : List Declaration} {id : LogicalId}
      {count : Nat} {e : DocumentError} (entered : (register d).on doc = (.ok id, middle))
      (others : Stops middle rest count e) : Stops doc (d :: rest) (count + 1) e

-- What enters on its own is there when a batch holds the next member against those before it.
theorem Succession.accepted {doc next : Document} {batch : List Declaration}
    {ids : List LogicalId} (path : doc.Succession batch next ids) :
    refusal? doc.declarations batch = none ∧ doc.append batch = next ∧
      batch.map (·.id) = ids := by
  induction path with
  | done doc => exact ⟨rfl, by simp [append], rfl⟩
  | next entered _ ih =>
    rw [register_on, outcome_ok] at entered
    obtain ⟨first, rfl, rfl⟩ := entered
    obtain ⟨others, rfl, rfl⟩ := ih
    rw [refusal?_cons, first]
    exact ⟨others, by simp [append], rfl⟩

theorem Stops.refused {doc : Document} {batch : List Declaration} {count : Nat}
    {e : DocumentError} (stops : doc.Stops batch count e) :
    refusal? doc.declarations batch = some e := by
  induction stops with
  | here rest refused =>
    rw [register_on, outcome_error] at refused
    rw [refusal?_cons, refused.1]
    rfl
  | later entered _ ih =>
    rw [register_on, outcome_ok] at entered
    obtain ⟨first, rfl, _⟩ := entered
    rw [refusal?_cons, first]
    exact ih

-- Whatever is to be registered, it all enters or there is a first that does not.
theorem succession_or_stops (doc : Document) (batch : List Declaration) :
    (∃ next ids, doc.Succession batch next ids) ∨ ∃ count e, doc.Stops batch count e := by
  induction batch generalizing doc with
  | nil => exact .inl ⟨doc, [], .done doc⟩
  | cons d rest ih =>
    rcases first : (register d).on doc with ⟨e | id, middle⟩
    · exact .inr ⟨0, e, .here rest first⟩
    · rcases ih middle with ⟨next, ids, path⟩ | ⟨count, e, stops⟩
      · exact .inl ⟨next, id :: ids, .next first path⟩
      · exact .inr ⟨count + 1, e, .later first stops⟩

-- A batch whose members would all enter one after the other enters with the same result. If one of
-- them would be the first that is refused, the batch is refused for it, and the document that it
-- leaves is the one that was there before, without the members that would have entered.
theorem registerAll_succession (doc : Document) (batch : List Declaration) :
    (∀ next ids, doc.Succession batch next ids →
      (registerAll batch).on doc = (.ok ids, next)) ∧
    (∀ count e, doc.Stops batch count e → (registerAll batch).on doc = (.error e, doc)) ∧
    ((∃ next ids, doc.Succession batch next ids) ∨ ∃ count e, doc.Stops batch count e) := by
  refine ⟨?_, ?_, succession_or_stops doc batch⟩
  · intro next ids path
    rw [registerAll_on, outcome_ok]
    exact path.accepted
  · intro count e stops
    rw [registerAll_on, outcome_error]
    exact ⟨stops.refused, rfl⟩

def stocked : Document := run (.new "test") [.add (.parameter "size" .string)]

def bucket : Declaration := .resource "Bucket" "AWS::S3::Bucket" []

-- The last output is refused for the name of a member of its own batch. Registered on their own, the
-- two before it would have stayed.
theorem stocked_succession :
    stocked.Succession [bucket, .output "bucket" (.ref "Bucket")]
      (stocked.append [bucket, .output "bucket" (.ref "Bucket")]) ["Bucket", "bucket"] ∧
    (registerAll [bucket, .output "bucket" (.ref "Bucket")]).on stocked =
      (.ok ["Bucket", "bucket"], stocked.append [bucket, .output "bucket" (.ref "Bucket")]) ∧
    stocked.Stops [bucket, .output "bucket" (.ref "Bucket"), .output "Bucket" "x", .output "-" "y"]
      2 (.duplicateId "Bucket" .resource) ∧
    (registerAll
      [bucket, .output "bucket" (.ref "Bucket"), .output "Bucket" "x", .output "-" "y"]).on stocked =
      (.error (.duplicateId "Bucket" .resource), stocked) := by
  have path : stocked.Succession [bucket, .output "bucket" (.ref "Bucket")]
      (stocked.append [bucket, .output "bucket" (.ref "Bucket")]) ["Bucket", "bucket"] :=
    .next rfl (.next rfl (.done _))
  have stops : stocked.Stops
      [bucket, .output "bucket" (.ref "Bucket"), .output "Bucket" "x", .output "-" "y"] 2
      (.duplicateId "Bucket" .resource) := .later rfl (.later rfl (.here _ rfl))
  exact ⟨path, (registerAll_succession _ _).1 _ _ path, stops,
    (registerAll_succession _ _).2.1 _ _ stops⟩

end StackTemplate.Document
