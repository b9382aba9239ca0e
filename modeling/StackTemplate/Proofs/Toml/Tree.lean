import StackTemplate.Toml.Branch

namespace StackTemplate.Toml

-- All keys of a table are distinct, and an array of headed tables holds tables and at least one.
inductive Regular : Toml → Prop where
  | string (text : String) : Regular (.string text)
  | integer (value : Int) : Regular (.integer value)
  | float (value : Binary64) : Regular (.float value)
  | boolean (value : Bool) : Regular (.boolean value)
  | datetime (text : String) : Regular (.datetime text)
  | array {items : List Toml} (each : ∀ item ∈ items, Regular item) : Regular (.array items)
  | tables {rows : List Toml} (filled : rows ≠ [])
      (headed : ∀ row ∈ rows, ∃ entries, row = .table entries) (each : ∀ row ∈ rows, Regular row) :
      Regular (.tables rows)
  | table {entries : List (String × Toml)} (distinct : Entries.Distinct entries)
      (each : ∀ entry ∈ entries, Regular entry.2) : Regular (.table entries)

theorem regular_table {entries : List (String × Toml)} :
    (Toml.table entries).Regular ↔ Entries.Distinct entries ∧ ∀ entry ∈ entries, entry.2.Regular := by
  constructor
  · intro regular
    cases regular with
    | table distinct each => exact ⟨distinct, each⟩
  · exact fun ⟨distinct, each⟩ => .table distinct each

inductive Branch.Regular : Branch → Prop where
  | value {v : Toml} (regular : v.Regular) : Regular (.value v)
  | table {origin : Origin} {entries : List (String × Branch)}
      (distinct : Entries.Distinct entries) (each : ∀ entry ∈ entries, Regular entry.2) :
      Regular (.table origin entries)
  | tables {rows : List (List (String × Branch))} (filled : rows ≠ [])
      (distinct : ∀ row ∈ rows, Entries.Distinct row)
      (each : ∀ row ∈ rows, ∀ entry ∈ row, Regular entry.2) : Regular (.tables rows)

structure Branches.Regular (branches : Branches) : Prop where
  distinct : Entries.Distinct branches
  each : ∀ entry ∈ branches, entry.2.Regular

namespace Branches
variable {branches : Branches} {name : String} {branch : Branch}

theorem Regular.empty : Branches.Regular [] := ⟨List.nodup_nil, by simp⟩

theorem Regular.found (regular : Branches.Regular branches)
    (found : Entries.find? branches name = some branch) : branch.Regular :=
  regular.each _ (Entries.mem_of_find? found)

theorem Regular.push (regular : Branches.Regular branches)
    (fresh : Entries.find? branches name = none) (sound : branch.Regular) :
    Branches.Regular (branches ++ [(name, branch)]) := by
  have unknown : name ∉ Entries.keys branches := by
    intro known
    obtain ⟨other, found⟩ := Entries.find?_of_key known
    rw [fresh] at found
    cases found
  constructor
  · rw [Entries.Distinct, Entries.keys, List.map_append]
    refine List.nodup_append.mpr ⟨regular.distinct, by simp, ?_⟩
    intro key listed other single same
    have named : other = name := List.mem_singleton.mp single
    exact unknown (named ▸ same ▸ listed)
  · intro entry member
    cases List.mem_append.mp member with
    | inl old => exact regular.each entry old
    | inr new =>
      cases List.mem_singleton.mp new
      exact sound

theorem Regular.insert (regular : Branches.Regular branches) (sound : branch.Regular) :
    Branches.Regular (Entries.insert branches name branch) := by
  refine ⟨Entries.distinct_insert regular.distinct name branch, fun entry member => ?_⟩
  cases Entries.mem_insert member with
  | inl old => exact regular.each entry old
  | inr new =>
    cases new
    exact sound

theorem Regular.without (regular : Branches.Regular branches) (name : String) :
    Branches.Regular (branches.filter (·.1 ≠ name)) := by
  constructor
  · exact (List.Sublist.map _ List.filter_sublist).nodup regular.distinct
  · exact fun entry member => regular.each entry (List.mem_filter.mp member).1

theorem find?_without (branches : Branches) (name : String) :
    Entries.find? (branches.filter (·.1 ≠ name)) name = none := by
  induction branches with
  | nil => rfl
  | cons entry rest ih =>
    by_cases here : entry.1 = name
    · simpa [here] using ih
    · simpa [here, Entries.find?] using ih

end Branches

namespace Branch
variable {origin : Origin} {entries : List (String × Branch)} {rows : List (List (String × Branch))}

theorem regular_table : (Branch.table origin entries).Regular ↔ Branches.Regular entries := by
  constructor
  · intro regular
    cases regular with
    | table distinct each => exact ⟨distinct, each⟩
  · exact fun regular => .table regular.distinct regular.each

theorem regular_tables :
    (Branch.tables rows).Regular ↔ rows ≠ [] ∧ ∀ row ∈ rows, Branches.Regular row := by
  constructor
  · intro regular
    cases regular with
    | tables filled distinct each =>
      exact ⟨filled, fun row member => ⟨distinct row member, each row member⟩⟩
  · rintro ⟨filled, regular⟩
    exact .tables filled (fun row member => (regular row member).distinct)
      fun row member => (regular row member).each

theorem last_regular (regular : (Branch.tables rows).Regular) :
    Branches.Regular (rows.getLastD []) := by
  rw [List.getLastD_eq_getLast?]
  cases last : rows.getLast? with
  | none => exact .empty
  | some row => exact (regular_tables.mp regular).2 row (List.mem_of_getLast? last)

theorem replaced_regular {last : Branches} (regular : (Branch.tables rows).Regular)
    (sound : Branches.Regular last) : (Branch.tables (rows.dropLast ++ [last])).Regular := by
  refine regular_tables.mpr ⟨by simp, fun row member => ?_⟩
  cases List.mem_append.mp member with
  | inl old => exact (regular_tables.mp regular).2 row (List.dropLast_subset rows old)
  | inr new =>
    cases List.mem_singleton.mp new
    exact sound

theorem addDotted_regular {name : String} {v : Toml} (sound : v.Regular) {path : List String}
    {within : Origin} {branches result : Branches} (regular : Branches.Regular branches)
    (added : addDotted name v path within branches = some result) : Branches.Regular result := by
  induction path generalizing within branches result with
  | nil =>
    rw [addDotted] at added
    split at added
    · rename_i fresh
      cases added
      exact regular.push (Option.isNone_iff_eq_none.mp fresh.2) (.value sound)
    · cases added
  | cons k path ih =>
    rw [addDotted] at added
    cases found : Entries.find? branches k with
    | none =>
      rw [found] at added
      obtain ⟨inner, made, done⟩ := Option.bind_eq_some_iff.mp added
      cases done
      exact regular.push found (regular_table.mpr (ih .empty made))
    | some branch =>
      have known := regular.found found
      rw [found] at added
      cases branch with
      | value old => cases added
      | table origin entries =>
        cases origin with
        | header => cases added
        | passage | dotted =>
          obtain ⟨inner, made, done⟩ := Option.bind_eq_some_iff.mp added
          cases done
          exact regular.insert (regular_table.mpr (ih (regular_table.mp known) made))
      | tables rows =>
        obtain ⟨inner, made, done⟩ := Option.bind_eq_some_iff.mp added
        cases done
        exact regular.insert (replaced_regular known (ih (last_regular known) made))

theorem addPair_regular {path : List String} {name : String} {v : Toml} (sound : v.Regular)
    {branches result : Branches} (regular : Branches.Regular branches)
    (added : addPair path name v branches = some result) : Branches.Regular result := by
  cases path with
  | nil =>
    rw [addPair] at added
    split at added
    · rename_i fresh
      cases added
      exact regular.push (Option.isNone_iff_eq_none.mp fresh) (.value sound)
    · cases added
  | cons k path => exact addDotted_regular sound regular added

theorem atPath_regular {change : Branches → Option Branches}
    (keeps : ∀ branches result, Branches.Regular branches → change branches = some result →
      Branches.Regular result)
    {path : List String} {branches result : Branches} (regular : Branches.Regular branches)
    (changed : atPath change path branches = some result) : Branches.Regular result := by
  induction path generalizing branches result with
  | nil => exact keeps branches result regular changed
  | cons k path ih =>
    rw [atPath] at changed
    cases found : Entries.find? branches k with
    | none =>
      rw [found] at changed
      obtain ⟨inner, made, done⟩ := Option.bind_eq_some_iff.mp changed
      cases done
      exact regular.push found (regular_table.mpr (ih .empty made))
    | some branch =>
      have known := regular.found found
      rw [found] at changed
      cases branch with
      | value old => cases changed
      | table origin entries =>
        obtain ⟨inner, made, done⟩ := Option.bind_eq_some_iff.mp changed
        cases done
        exact regular.insert (regular_table.mpr (ih (regular_table.mp known) made))
      | tables rows =>
        obtain ⟨inner, made, done⟩ := Option.bind_eq_some_iff.mp changed
        cases done
        exact regular.insert (replaced_regular known (ih (last_regular known) made))

theorem openTable_regular {name : String} {branches result : Branches}
    (regular : Branches.Regular branches) (opened : openTable name branches = some result) :
    Branches.Regular result := by
  unfold openTable at opened
  cases found : Entries.find? branches name with
  | none =>
    rw [found] at opened
    cases opened
    exact regular.push found (regular_table.mpr .empty)
  | some branch =>
    have known := regular.found found
    rw [found] at opened
    cases branch with
    | value old => cases opened
    | table origin entries =>
      cases origin with
      | header => cases opened
      | passage =>
        cases opened
        exact (regular.without name).push (Branches.find?_without branches name)
          (regular_table.mpr (regular_table.mp known))
      | dotted => cases opened
    | tables rows => cases opened

theorem openRow_regular {name : String} {branches result : Branches}
    (regular : Branches.Regular branches) (opened : openRow name branches = some result) :
    Branches.Regular result := by
  have single : ∀ row ∈ [[]], Branches.Regular row := by
    intro row member
    cases List.mem_singleton.mp member
    exact .empty
  unfold openRow at opened
  cases found : Entries.find? branches name with
  | none =>
    rw [found] at opened
    cases opened
    exact regular.push found (regular_tables.mpr ⟨List.cons_ne_nil _ _, single⟩)
  | some branch =>
    have known := regular.found found
    rw [found] at opened
    cases branch with
    | value old => cases opened
    | table origin entries => cases opened
    | tables rows =>
      cases opened
      refine regular.insert (regular_tables.mpr ⟨by simp, fun row member => ?_⟩)
      cases List.mem_append.mp member with
      | inl old => exact (regular_tables.mp known).2 row old
      | inr new => exact single row new

theorem freeze_eq (branches : Branches) :
    freeze branches = branches.map fun entry => (entry.1, entry.2.frozen) := by
  induction branches with
  | nil => rfl
  | cons entry rest ih => rw [freeze, ih, List.map_cons]

theorem freezeRows_eq (rows : List Branches) :
    freezeRows rows = rows.map fun row => .table (freeze row) := by
  induction rows with
  | nil => rfl
  | cons row rows ih => rw [freezeRows, ih, List.map_cons]

theorem freeze_regular {branches : Branches} (distinct : Entries.Distinct branches)
    (each : ∀ entry ∈ branches, entry.2.frozen.Regular) : (Toml.table (freeze branches)).Regular := by
  rw [freeze_eq]
  refine .table ?_ fun entry member => ?_
  · rw [Entries.Distinct, Entries.keys, List.map_map]
    exact distinct
  · obtain ⟨old, listed, rfl⟩ := List.mem_map.mp member
    exact each old listed

theorem Regular.frozen {branch : Branch} (regular : branch.Regular) : branch.frozen.Regular := by
  induction regular with
  | value regular => exact regular
  | table distinct _ ih => exact freeze_regular distinct ih
  | tables filled distinct _ ih =>
    rw [Branch.frozen, freezeRows_eq]
    refine .tables (by simpa using filled) ?_ ?_
    · intro row member
      obtain ⟨old, _, rfl⟩ := List.mem_map.mp member
      exact ⟨freeze old, rfl⟩
    · intro row member
      obtain ⟨old, listed, rfl⟩ := List.mem_map.mp member
      exact freeze_regular (distinct old listed) (ih old listed)

end Branch

theorem Branches.Regular.freeze {branches : Branches} (regular : Branches.Regular branches) :
    (Toml.table (Branch.freeze branches)).Regular :=
  Branch.freeze_regular regular.distinct fun entry member => (regular.each entry member).frozen

end StackTemplate.Toml
