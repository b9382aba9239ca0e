import StackTemplate.EditDistance

namespace StackTemplate.EditDistance

-- A character is inserted, deleted or replaced somewhere.
inductive Edit : List Char → List Char → Prop where
  | insert (front : List Char) (c : Char) (back : List Char) :
      Edit (front ++ back) (front ++ c :: back)
  | delete (front : List Char) (c : Char) (back : List Char) :
      Edit (front ++ c :: back) (front ++ back)
  | replace (front : List Char) (c d : Char) (back : List Char) :
      Edit (front ++ c :: back) (front ++ d :: back)

-- So many edits, one after the other, turn the first sequence into the second.
inductive Edits : Nat → List Char → List Char → Prop where
  | nothing (a : List Char) : Edits 0 a a
  | more {count : Nat} {a b c : List Char} (first : Edit a b) (rest : Edits count b c) :
      Edits (count + 1) a c

-- The textbook's recursion: the first characters are matched, or one of them has no counterpart.
def levenshtein : List Char → List Char → Nat
  | [], b => b.length
  | c :: a, [] => a.length + 1
  | c :: a, d :: b =>
    min (min (levenshtein a b + if c = d then 0 else 1) (levenshtein a (d :: b) + 1))
      (levenshtein (c :: a) b + 1)

section
variable {a b t : List Char} {c d : Char} {count : Nat}

theorem Edit.cons (c : Char) (edit : Edit a b) : Edit (c :: a) (c :: b) := by
  cases edit with
  | insert front d back => exact .insert (c :: front) d back
  | delete front d back => exact .delete (c :: front) d back
  | replace front d e back => exact .replace (c :: front) d e back

theorem Edit.symm (edit : Edit a b) : Edit b a := by
  cases edit with
  | insert front c back => exact .delete front c back
  | delete front c back => exact .insert front c back
  | replace front c d back => exact .replace front d c back

theorem Edit.reverse (edit : Edit a b) : Edit a.reverse b.reverse := by
  cases edit with
  | insert front c back =>
    simpa using Edit.insert back.reverse c front.reverse
  | delete front c back =>
    simpa using Edit.delete back.reverse c front.reverse
  | replace front c d back =>
    simpa using Edit.replace back.reverse c d front.reverse

namespace Edits

theorem single (edit : Edit a b) : Edits 1 a b := .more edit (.nothing b)

theorem trans {other : Nat} (first : Edits count a b) (second : Edits other b t) :
    Edits (count + other) a t := by
  induction first with
  | nothing => rwa [Nat.zero_add]
  | more edit _ ih =>
    rw [Nat.add_right_comm]
    exact .more edit (ih second)

theorem map {f : List Char → List Char} (keeps : ∀ {a b}, Edit a b → Edit (f a) (f b))
    (edits : Edits count a b) : Edits count (f a) (f b) := by
  induction edits with
  | nothing => exact .nothing _
  | more edit _ ih => exact .more (keeps edit) ih

theorem cons (c : Char) (edits : Edits count a b) : Edits count (c :: a) (c :: b) :=
  edits.map (Edit.cons c)

theorem reverse (edits : Edits count a b) : Edits count a.reverse b.reverse :=
  edits.map Edit.reverse

theorem symm (edits : Edits count a b) : Edits count b a := by
  induction edits with
  | nothing => exact .nothing _
  | more edit _ ih => exact ih.trans (single edit.symm)

theorem insertAll (b : List Char) : Edits b.length [] b := by
  induction b with
  | nil => exact .nothing []
  | cons d b ih => exact .more (.insert [] d []) (ih.cons d)

theorem deleteAll (a : List Char) : Edits a.length a [] := (insertAll a).symm

end Edits

@[simp] theorem levenshtein_nil (b : List Char) : levenshtein [] b = b.length := by
  rw [levenshtein]

@[simp] theorem levenshtein_nil_right (a : List Char) : levenshtein a [] = a.length := by
  cases a <;> simp [levenshtein]

theorem levenshtein_cons (c : Char) (a : List Char) (d : Char) (b : List Char) :
    levenshtein (c :: a) (d :: b) =
      min (min (levenshtein a b + if c = d then 0 else 1) (levenshtein a (d :: b) + 1))
        (levenshtein (c :: a) b + 1) := by
  rw [levenshtein]

theorem edits_levenshtein (a b : List Char) : Edits (levenshtein a b) a b := by
  induction a, b using levenshtein.induct with
  | case1 b =>
    rw [levenshtein_nil]
    exact .insertAll b
  | case2 c a =>
    rw [levenshtein_nil_right]
    exact .deleteAll (c :: a)
  | case3 c a d b matched dropped added =>
    have chosen : levenshtein (c :: a) (d :: b) = levenshtein a b + (if c = d then 0 else 1) ∨
        levenshtein (c :: a) (d :: b) = levenshtein a (d :: b) + 1 ∨
        levenshtein (c :: a) (d :: b) = levenshtein (c :: a) b + 1 := by
      rw [levenshtein_cons]
      omega
    obtain least | least | least := chosen
    · rw [least]
      by_cases same : c = d
      · rw [if_pos same, same]
        exact matched.cons d
      · rw [if_neg same]
        exact .more (.replace [] c d a) (matched.cons d)
    · rw [least]
      exact .more (.delete [] c a) dropped
    · rw [least]
      exact .more (.insert [] d (c :: a)) (added.cons d)

theorem levenshtein_match (c d : Char) (a b : List Char) :
    levenshtein (c :: a) (d :: b) ≤ levenshtein a b + if c = d then 0 else 1 := by
  rw [levenshtein_cons]
  omega

theorem levenshtein_drop (c : Char) (a b : List Char) :
    levenshtein (c :: a) b ≤ levenshtein a b + 1 := by
  cases b with
  | nil => simp
  | cons d b =>
    rw [levenshtein_cons]
    omega

theorem levenshtein_add (a : List Char) (d : Char) (b : List Char) :
    levenshtein a (d :: b) ≤ levenshtein a b + 1 := by
  cases a with
  | nil => simp
  | cons c a =>
    rw [levenshtein_cons]
    omega

theorem levenshtein_self (a : List Char) : levenshtein a a = 0 := by
  induction a with
  | nil => simp
  | cons c a ih => simpa [ih] using levenshtein_match c c a a

-- From wherever one gets to the second sequence, one more edit is enough for the first.
def Near (a b : List Char) : Prop := ∀ t, levenshtein a t ≤ levenshtein b t + 1

-- The induction is on the target. If its first character is added there is one less to reach; the
-- other two ways to begin are left to show.
theorem near_cons (short : a.length ≤ b.length + 2)
    (matched : ∀ e t, levenshtein a (e :: t) ≤ levenshtein b t + (if d = e then 0 else 1) + 1)
    (dropped : ∀ e t, levenshtein a (e :: t) ≤ levenshtein b (e :: t) + 2) : Near a (d :: b) := by
  intro t
  induction t with
  | nil => simpa using short
  | cons e t ih =>
    have added := levenshtein_add a e t
    have first := matched e t
    have second := dropped e t
    rw [levenshtein_cons]
    omega

theorem Near.cons (near : Near a b) (c : Char) : Near (c :: a) (c :: b) := by
  refine near_cons ?_ ?_ ?_
  · simpa using near []
  · intro e t
    have := levenshtein_match c e a t
    have := near t
    omega
  · intro e t
    have := levenshtein_drop c a (e :: t)
    have := near (e :: t)
    omega

theorem near_insert (c : Char) (a : List Char) : Near a (c :: a) := by
  refine near_cons (by omega) ?_ ?_
  · intro e t
    have := levenshtein_add a e t
    omega
  · intro e t
    omega

theorem near_replace (c d : Char) (a : List Char) : Near (c :: a) (d :: a) := by
  refine near_cons (by simp) ?_ ?_
  · intro e t
    have := levenshtein_match c e a t
    split at this <;> omega
  · intro e t
    have := levenshtein_drop c a (e :: t)
    omega

theorem Near.behind (near : Near a b) (front : List Char) : Near (front ++ a) (front ++ b) := by
  induction front with
  | nil => exact near
  | cons c front ih => exact ih.cons c

theorem Edit.near (edit : Edit a b) : Near a b := by
  cases edit with
  | insert front c back => exact (near_insert c back).behind front
  | delete front c back => exact Near.behind (levenshtein_drop c back) front
  | replace front c d back => exact (near_replace c d back).behind front

theorem Edits.levenshtein_le (edits : Edits count a b) : levenshtein a b ≤ count := by
  induction edits with
  | nothing a => exact Nat.le_of_eq (levenshtein_self a)
  | more edit _ ih => exact Nat.le_trans (edit.near _) (Nat.succ_le_succ ih)

theorem levenshtein_reverse (a b : List Char) :
    levenshtein a.reverse b.reverse = levenshtein a b := by
  apply Nat.le_antisymm
  · exact (edits_levenshtein a b).reverse.levenshtein_le
  · simpa using (edits_levenshtein a.reverse b.reverse).reverse.levenshtein_le

theorem levenshtein_comm (a b : List Char) : levenshtein a b = levenshtein b a := by
  apply Nat.le_antisymm
  · exact (edits_levenshtein b a).symm.levenshtein_le
  · exact (edits_levenshtein a b).symm.levenshtein_le

theorem levenshtein_eq_zero : levenshtein a b = 0 ↔ a = b := by
  constructor
  · intro zero
    have edits := edits_levenshtein a b
    rw [zero] at edits
    cases edits
    rfl
  · rintro rfl
    exact levenshtein_self a

theorem levenshtein_triangle (a b c : List Char) :
    levenshtein a c ≤ levenshtein a b + levenshtein b c :=
  ((edits_levenshtein a b).trans (edits_levenshtein b c)).levenshtein_le

end

-- The rest of a row behind the cell for `seen`. Both fronts are given from their ends, for a row
-- is about the fronts that end in a character and the recursion about what begins with it.
def cells (front : List Char) : (seen rest : List Char) → List Nat
  | _, [] => []
  | seen, d :: rest => levenshtein front (d :: seen) :: cells front (d :: seen) rest

def row (front second : List Char) : List Nat := levenshtein front [] :: cells front [] second

theorem firstRow_eq (second : List Char) : firstRow second = row [] second := by
  have counted (seen rest : List Char) :
      cells [] seen rest = List.range' (seen.length + 1) rest.length := by
    induction rest generalizing seen with
    | nil => rfl
    | cons d rest ih =>
      rw [cells, ih (d :: seen), levenshtein_nil]
      rfl
  rw [firstRow, row, counted, levenshtein_nil, List.range_eq_range']
  rfl

-- The cells that a new cell is computed from are those that the recursion asks for.
theorem extendRow_eq (c : Char) (front seen rest : List Char) :
    extendRow c rest (levenshtein front seen) (cells front seen rest)
      (levenshtein (c :: front) seen) = cells (c :: front) seen rest := by
  induction rest generalizing seen with
  | nil => rfl
  | cons d rest ih =>
    rw [cells, cells, extendRow, ← levenshtein_cons, ih (d :: seen)]

theorem nextRow_eq (second front : List Char) (c : Char) :
    nextRow second (row front second) c = row (c :: front) second := by
  have corner : levenshtein front [] + 1 = levenshtein (c :: front) [] := by simp
  rw [row, nextRow, corner, extendRow_eq, row]

theorem foldl_nextRow (second first front : List Char) :
    first.foldl (nextRow second) (row front second) = row (first.reverse ++ front) second := by
  induction first generalizing front with
  | nil => rfl
  | cons c first ih =>
    rw [List.foldl_cons, nextRow_eq, ih, List.reverse_cons, List.append_assoc]
    rfl

theorem getLastD_cells (front seen rest : List Char) :
    (levenshtein front seen :: cells front seen rest).getLastD 0 =
      levenshtein front (rest.reverse ++ seen) := by
  induction rest generalizing seen with
  | nil => rfl
  | cons d rest ih =>
    rw [cells, List.reverse_cons, List.append_assoc]
    exact ih (d :: seen)

theorem distance_eq (a b : List Char) : distance a b = levenshtein a b := by
  rw [distance, firstRow_eq, foldl_nextRow, row, getLastD_cells]
  simpa using levenshtein_reverse a b

-- The distance is the textbook's, the least number of edits, and so a metric.
theorem distance_least (a b : List Char) :
    distance a b = levenshtein a b ∧
    Edits (distance a b) a b ∧ (∀ count, Edits count a b → distance a b ≤ count) ∧
    distance a b = distance b a ∧ (distance a b = 0 ↔ a = b) ∧
    ∀ c, distance a c ≤ distance a b + distance b c := by
  refine ⟨distance_eq a b, ?_⟩
  simp only [distance_eq]
  exact ⟨edits_levenshtein a b, fun _ edits => edits.levenshtein_le, levenshtein_comm a b,
    levenshtein_eq_zero, levenshtein_triangle a b⟩

example : distance "kitten".toList "sitting".toList = 3 := by decide

end StackTemplate.EditDistance
