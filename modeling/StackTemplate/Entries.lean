namespace StackTemplate

theorem filter_unlisted {α : Type} [DecidableEq α] (listed rest : List α) (one : α) :
    rest.filter (· ∉ listed ++ [one]) =
      (rest.filter (· ∉ listed)).filter fun other => !other == one := by
  rw [List.filter_filter]
  refine List.filter_congr fun other _ => ?_
  simp [and_comm, Bool.beq_eq_decide_eq]

abbrev Entries (α : Type) := List (String × α)

namespace Entries
variable {α β : Type}

def keys (entries : Entries α) : List String := entries.map (·.1)

def find? (entries : Entries α) (key : String) : Option α :=
  match entries with
  | [] => none
  | (k, value) :: rest => if k = key then some value else find? rest key

-- Writes one entry: a new key goes to the end, a known one takes the new value where it stands.
def insert (entries : Entries α) (key : String) (value : α) : Entries α :=
  match entries with
  | [] => [(key, value)]
  | (k, old) :: rest => if k = key then (key, value) :: rest else (k, old) :: insert rest key value

def insertAll (entries : Entries α) (more : List (String × α)) : Entries α :=
  more.foldl (fun acc entry => insert acc entry.1 entry.2) entries

def ofList (entries : List (String × α)) : Entries α := insertAll [] entries

def Distinct (entries : Entries α) : Prop := (keys entries).Nodup

theorem keys_insert (entries : Entries α) (key : String) (value : α) :
    keys (insert entries key value) =
      if key ∈ keys entries then keys entries else keys entries ++ [key] := by
  induction entries with
  | nil => simp [insert, keys]
  | cons entry rest ih =>
    obtain ⟨k, old⟩ := entry
    simp only [keys] at ih
    by_cases h : k = key
    · simp [insert, keys, h]
    · by_cases hm : key ∈ rest.map (·.1) <;>
        simp_all [insert, keys, Ne.symm h]

theorem mem_insert {entry : String × α} {entries : Entries α} {key : String} {value : α}
    (member : entry ∈ insert entries key value) : entry ∈ entries ∨ entry = (key, value) := by
  induction entries with
  | nil => exact .inr (List.mem_singleton.mp member)
  | cons first rest ih =>
    rw [insert] at member
    split at member
    · rcases List.mem_cons.mp member with new | old
      · exact .inr new
      · exact .inl (List.mem_cons_of_mem _ old)
    · rcases List.mem_cons.mp member with same | later
      · exact .inl (same ▸ List.mem_cons_self)
      · exact (ih later).imp_left (List.mem_cons_of_mem _)

theorem mem_insertAll {entry : String × α} {entries : Entries α} {more : List (String × α)}
    (member : entry ∈ insertAll entries more) : entry ∈ entries ∨ entry ∈ more := by
  induction more generalizing entries with
  | nil => exact .inl member
  | cons first rest ih =>
    rcases ih member with old | new
    · rcases mem_insert old with known | rfl
      · exact .inl known
      · exact .inr List.mem_cons_self
    · exact .inr (List.mem_cons_of_mem _ new)

theorem mem_keys_insertAll {key : String} {entries : Entries α} {more : List (String × α)} :
    key ∈ keys (insertAll entries more) ↔ key ∈ keys entries ∨ key ∈ keys more := by
  induction more generalizing entries with
  | nil => simp [insertAll, keys]
  | cons first rest ih =>
    have step : key ∈ keys (insertAll entries (first :: rest)) ↔
        key ∈ keys (insert entries first.1 first.2) ∨ key ∈ keys rest := ih
    have front : key ∈ keys (first :: rest) ↔ key = first.1 ∨ key ∈ keys rest := List.mem_cons
    rw [step, front, keys_insert]
    split
    · rename_i known
      constructor
      · rintro (old | new)
        · exact .inl old
        · exact .inr (.inr new)
      · rintro (old | rfl | new)
        · exact .inl old
        · exact .inl known
        · exact .inr new
    · simp [or_assoc]

theorem keys_insertAll (entries : Entries α) (more : List (String × α)) :
    keys (insertAll entries more) =
      keys entries ++ ((keys more).filter (· ∉ keys entries)).eraseDups := by
  induction more generalizing entries with
  | nil => simp [insertAll, keys]
  | cons entry rest ih =>
    have step : insertAll entries (entry :: rest) =
        insertAll (insert entries entry.1 entry.2) rest := rfl
    have front : keys (entry :: rest) = entry.1 :: keys rest := rfl
    rw [step, ih, keys_insert, front]
    by_cases known : entry.1 ∈ keys entries
    · simp [known]
    · rw [if_neg known, filter_unlisted, List.filter_cons_of_pos (by simpa using known),
        List.eraseDups_cons, List.append_assoc, List.singleton_append]

theorem mem_of_find? {entries : Entries α} {key : String} {value : α}
    (found : find? entries key = some value) : (key, value) ∈ entries := by
  induction entries with
  | nil => cases found
  | cons first rest ih =>
    obtain ⟨k, v⟩ := first
    rw [find?] at found
    split at found
    · rename_i same
      cases found
      exact same ▸ List.mem_cons_self
    · exact List.mem_cons_of_mem _ (ih found)

theorem find?_of_mem {entries : Entries α} (distinct : Distinct entries)
    {key : String} {value : α} (member : (key, value) ∈ entries) :
    find? entries key = some value := by
  induction entries with
  | nil => cases member
  | cons entry rest ih =>
    obtain ⟨k, first⟩ := entry
    obtain ⟨fresh, later⟩ := List.nodup_cons.mp distinct
    cases member with
    | head => simp [find?]
    | tail _ inside =>
      have known : key ∈ keys rest := List.mem_map_of_mem (f := (·.1)) inside
      have apart : k ≠ key := fun same => fresh (same ▸ known)
      rw [find?, if_neg apart]
      exact ih later inside

theorem find?_of_key {entries : Entries α} {key : String}
    (known : key ∈ keys entries) : ∃ value, find? entries key = some value := by
  induction entries with
  | nil => cases known
  | cons entry rest ih =>
    obtain ⟨k, first⟩ := entry
    rw [find?]
    by_cases here : k = key
    · exact ⟨first, if_pos here⟩
    · rw [if_neg here]
      exact ih ((List.mem_cons.mp known).resolve_left (Ne.symm here))

theorem find?_insert (entries : Entries α) (key other : String) (value : α) :
    find? (insert entries key value) other =
      if key = other then some value else find? entries other := by
  induction entries with
  | nil => rfl
  | cons entry rest ih =>
    obtain ⟨k, old⟩ := entry
    rw [insert]
    split
    · rename_i same
      subst same
      rw [find?, find?]
      split <;> rfl
    · rename_i apart
      rw [find?, find?, ih]
      split
      · rename_i here
        rw [if_neg (fun same => apart (here.trans same.symm))]
      · rfl

theorem insert_insert (entries : Entries α) (key : String) (first second : α) :
    insert (insert entries key first) key second = insert entries key second := by
  induction entries with
  | nil => simp [insert]
  | cons entry rest ih =>
    obtain ⟨k, old⟩ := entry
    by_cases here : k = key
    · simp [insert, here]
    · simp [insert, here, ih]

theorem find?_append (front back : Entries α) (key : String) :
    find? (front ++ back) key = (find? front key).or (find? back key) := by
  induction front with
  | nil => rfl
  | cons entry rest ih =>
    obtain ⟨k, value⟩ := entry
    rw [List.cons_append, find?, find?, ih]
    split <;> rfl

theorem find?_map (f : α → β) (entries : Entries α) (key : String) :
    find? (entries.map fun entry => (entry.1, f entry.2)) key = (find? entries key).map f := by
  induction entries with
  | nil => rfl
  | cons entry rest ih =>
    obtain ⟨k, value⟩ := entry
    rw [List.map_cons, find?, find?, ih]
    split <;> rfl

theorem find?_insertAll (entries : Entries α) (more : List (String × α)) (key : String) :
    find? (insertAll entries more) key = (find? more.reverse key).or (find? entries key) := by
  induction more generalizing entries with
  | nil => rfl
  | cons entry rest ih =>
    obtain ⟨k, value⟩ := entry
    have step : insertAll entries ((k, value) :: rest) =
        insertAll (insert entries k value) rest := rfl
    have single : find? [(k, value)] key = if k = key then some value else none := rfl
    rw [step, ih, find?_insert, List.reverse_cons, find?_append, Option.or_assoc, single]
    split <;> rfl

theorem find?_ofList (entries : List (String × α)) (key : String) :
    find? (ofList entries) key = find? entries.reverse key := by
  rw [ofList, find?_insertAll]
  exact Option.or_none

theorem last_of_mem {entries : List (String × α)} {key : String} (known : key ∈ keys entries) :
    ∃ before value rest, entries = before ++ (key, value) :: rest ∧ key ∉ keys rest := by
  induction entries with
  | nil => cases known
  | cons entry others ih =>
    by_cases later : key ∈ keys others
    · obtain ⟨before, value, rest, split, last⟩ := ih later
      exact ⟨entry :: before, value, rest, by rw [split, List.cons_append], last⟩
    · obtain ⟨k, value⟩ := entry
      have here : key = k := (List.mem_cons.mp known).resolve_right later
      exact ⟨[], value, others, by rw [here, List.nil_append], later⟩

theorem find?_ofList_last (before rest : List (String × α)) {key : String} (value : α)
    (last : key ∉ keys rest) : find? (ofList (before ++ (key, value) :: rest)) key = some value := by
  have unwritten : find? rest.reverse key = none := by
    cases written : find? rest.reverse key with
    | none => rfl
    | some other =>
      exact absurd (List.mem_map_of_mem (List.mem_reverse.mp (mem_of_find? written))) last
  rw [find?_ofList, List.reverse_append, List.reverse_cons, find?_append, find?_append, unwritten]
  simp [find?]

theorem distinct_insert {entries : Entries α} (h : Distinct entries) (key : String) (value : α) :
    Distinct (insert entries key value) := by
  unfold Distinct at *
  rw [keys_insert]
  split
  · exact h
  · rename_i fresh
    rw [List.nodup_append]
    refine ⟨h, by simp, ?_⟩
    intro a ha b hb
    rw [List.mem_singleton] at hb
    subst hb
    exact fun same => fresh (same ▸ ha)

theorem distinct_insertAll {entries : Entries α} (h : Distinct entries) (more : List (String × α)) :
    Distinct (insertAll entries more) := by
  induction more generalizing entries with
  | nil => exact h
  | cons entry rest ih => exact ih (distinct_insert h entry.1 entry.2)

theorem distinct_ofList (entries : List (String × α)) : Distinct (ofList entries) :=
  distinct_insertAll (by simp [Distinct, keys]) entries

end Entries

end StackTemplate
