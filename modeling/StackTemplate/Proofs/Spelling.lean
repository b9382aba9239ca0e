import StackTemplate.Proofs.Idle

namespace StackTemplate

-- Among the first few that are chosen there is one exactly if fewer are chosen before it.
theorem mem_take_filter {α : Type} {chosen : α → Bool} {before rest : List α} {one : α}
    (alone : (before ++ one :: rest).Nodup) (fits : chosen one = true) {count : Nat} :
    one ∈ ((before ++ one :: rest).filter chosen).take count ↔ before.countP chosen < count := by
  obtain ⟨_, _, apart⟩ := List.nodup_append.mp alone
  have absent : one ∉ before.filter chosen := by
    intro inside
    exact apart one (List.mem_filter.mp inside).1 one List.mem_cons_self rfl
  rw [List.filter_append, List.filter_cons_of_pos fits, List.take_append, List.mem_append,
    List.countP_eq_length_filter]
  constructor
  · intro offered
    cases offered with
    | inl earlier => exact absurd (List.mem_of_mem_take earlier) absent
    | inr later =>
      by_contra full
      rw [Nat.sub_eq_zero_of_le (Nat.le_of_not_lt full)] at later
      cases later
  · intro room
    obtain ⟨left, more⟩ := Nat.exists_eq_succ_of_ne_zero (Nat.sub_ne_zero_of_lt room)
    right
    rw [more, List.take_succ_cons]
    exact List.mem_cons_self

namespace LogicalId

def Alike (id other : LogicalId) : Prop := id.folded = other.folded

instance (id other : LogicalId) : Decidable (id.Alike other) := inferInstanceAs (Decidable (_ = _))

theorem resembles_of_alike {id wanted : LogicalId} (alike : id.Alike wanted) :
    id.resembles wanted = true := by
  have same : id.folded = wanted.folded := alike
  simp [resembles, same]

end LogicalId

namespace Document

-- What is offered in an error is read off the names of the document, none of which is the target.
theorem resolve_suggestions {doc : Document} (sound : doc.Sound) {options : LintOptions}
    {target source : LogicalId} {offered : List LogicalId}
    (fails : doc.resolve options = .error (.unresolvedReference target source offered)) :
    target ∉ doc.ids ∧ offered = doc.suggestions target := by
  cases resolve_error sound fails with
  | inl violated =>
    obtain ⟨d, _, wrong⟩ := mem_violations.mp violated
    cases wrong with
    | inl shape =>
      obtain ⟨_, _, other⟩ := shape
      cases other
    | inr named =>
      obtain ⟨edge, _, judged⟩ := named
      unfold judge at judged
      split at judged
      · cases judged
      · split at judged
        · rename_i unknown
          cases judged
          exact ⟨find?_none.mp unknown, rfl⟩
        · split at judged
          · cases judged
          · split at judged
            · cases judged
            · cases judged
  | inr unused =>
    obtain ⟨_, _, other⟩ := unused
    cases other

-- A name that is wrong in nothing but letter case is explained as long as there are few names that
-- resemble it: the right one is offered exactly if fewer than three of those before it do.
theorem resolve_spelling {doc : Document} (reached : doc.Reachable) {options : LintOptions}
    {target source : LogicalId} {offered : List LogicalId}
    (fails : doc.resolve options = .error (.unresolvedReference target source offered)) :
    offered = (doc.ids.filter (·.resembles target)).take 3 ∧
    (∀ before id rest, doc.ids = before ++ id :: rest → id.Alike target →
      (id ∈ offered ↔ before.countP (·.resembles target) < 3)) ∧
    ∀ id ∈ doc.ids, id.Alike target → doc.ids.countP (·.resembles target) ≤ 3 → id ∈ offered := by
  have sound := reached.sound
  obtain ⟨_, rfl⟩ := resolve_suggestions sound fails
  have placed (before : List LogicalId) (id : LogicalId) (rest : List LogicalId)
      (split : doc.ids = before ++ id :: rest) (alike : id.Alike target) :
      id ∈ doc.suggestions target ↔ before.countP (·.resembles target) < 3 := by
    have distinct := sound.distinct
    rw [split] at distinct
    have chosen : id.resembles target = true := LogicalId.resembles_of_alike alike
    rw [suggestions, split]
    exact mem_take_filter distinct chosen
  refine ⟨rfl, placed, ?_⟩
  intro id declared alike few
  obtain ⟨before, rest, split⟩ := List.append_of_mem declared
  have chosen : id.resembles target = true := LogicalId.resembles_of_alike alike
  rw [split, List.countP_append, List.countP_cons, if_pos chosen] at few
  apply (placed before id rest split alike).mpr
  omega

def bucketParameters : List Operation :=
  [ .add (.parameter "bucketLogs" .string), .add (.parameter "bucketData" .string) ]

-- An output refers to the bucket by a small letter, and two parameters begin with that name.
def lowered : Document := run (.new "test") (bucketParameters ++
  [ .add (.resource "Bucket" "AWS::S3::Bucket" []),
    .add (.parameter "bucketKeys" .string),
    .add (.output "name" (.ref "bucket")) ])

theorem lowered_spelling : lowered.Reachable ∧
    lowered.resolve ⟨.allow, .allow⟩ =
      .error (.unresolvedReference "bucket" "name" ["bucketLogs", "bucketData", "Bucket"]) ∧
    LogicalId.Alike "Bucket" "bucket" ∧
    (⟨"Bucket"⟩ : LogicalId) ∈ ([⟨"bucketLogs"⟩, ⟨"bucketData"⟩, ⟨"Bucket"⟩] : List LogicalId) := by
  have reached : lowered.Reachable := (Reachable.empty "test" _).run _
  have fails : lowered.resolve ⟨.allow, .allow⟩ =
      .error (.unresolvedReference "bucket" "name" ["bucketLogs", "bucketData", "Bucket"]) := by
    rw [resolve_allow reached.sound, settle_error]
    decide +kernel
  have alike : LogicalId.Alike "Bucket" "bucket" := by decide
  have offered := ((resolve_spelling reached fails).2.1 ["bucketLogs", "bucketData"] "Bucket"
    ["bucketKeys", "name"] rfl alike).mpr (by decide +kernel)
  exact ⟨reached, fails, alike, offered⟩

def crowded : Document := run (.new "test") (bucketParameters ++
  [ .add (.parameter "bucketKeys" .string),
    .add (.resource "Bucket" "AWS::S3::Bucket" []),
    .add (.output "name" (.ref "bucket")) ])

theorem crowded_out :
    ¬ ∀ (doc : Document), doc.Reachable → ∀ options target source offered,
      doc.resolve options = .error (.unresolvedReference target source offered) →
      ∀ id ∈ doc.ids, id.Alike target → (∀ other ∈ doc.ids, other.Alike target → other = id) →
        id ∈ offered := by
  intro explained
  have reached : crowded.Reachable := (Reachable.empty "test" _).run _
  have fails : crowded.resolve ⟨.allow, .allow⟩ =
      .error (.unresolvedReference "bucket" "name" ["bucketLogs", "bucketData", "bucketKeys"]) := by
    rw [resolve_allow reached.sound, settle_error]
    decide +kernel
  have offered := explained crowded reached _ _ _ _ fails "Bucket" (by decide) (by decide)
    (by decide)
  exact absurd offered (by decide)

end Document

end StackTemplate
