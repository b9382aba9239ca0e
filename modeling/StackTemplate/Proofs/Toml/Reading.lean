import StackTemplate.Proofs.Toml.Tree
import StackTemplate.Toml.Document

namespace StackTemplate.Toml

def Reader.Yields {α : Type} (reader : Reader α) (property : α → Prop) : Prop :=
  ∀ input result rest, reader input = some (result, rest) → property result

-- A step of a loop that is not its end.
def Reader.Steps {α : Type} (step : Reader (Option α)) (property : α → Prop) : Prop :=
  step.Yields fun piece => ∀ one, piece = some one → property one

section
variable {α β : Type} {property : α → Prop}

theorem collectWithin_yields {step : Reader (Option α)} (steps : step.Steps property) (fuel : Nat) :
    (collectWithin step fuel).Yields fun all => ∀ one ∈ all, property one := by
  induction fuel with
  | zero =>
    intro input all rest done
    cases done
  | succ fuel ih =>
    intro input all rest done
    rw [collectWithin] at done
    obtain ⟨⟨piece, after⟩, stepped, done⟩ := Option.bind_eq_some_iff.mp done
    cases piece with
    | none =>
      cases done
      simp
    | some first =>
      obtain ⟨⟨others, left⟩, collected, done⟩ := Option.bind_eq_some_iff.mp done
      cases done
      intro one member
      cases List.mem_cons.mp member with
      | inl same => exact same ▸ steps _ _ _ stepped first rfl
      | inr later => exact ih _ _ _ collected one later

theorem collect_yields {step : Reader (Option α)} (steps : step.Steps property) :
    (collect step).Yields fun all => ∀ one ∈ all, property one :=
  fun input => collectWithin_yields steps (input.length + 1) input

theorem foldlM_keeps {step : α → β → Option α} {all : List β}
    (keeps : ∀ one ∈ all, ∀ state next, property state → step state one = some next → property next)
    {state final : α} (start : property state) (done : all.foldlM step state = some final) :
    property final := by
  induction all generalizing state with
  | nil =>
    cases done
    exact start
  | cons one rest ih =>
    rw [List.foldlM_cons] at done
    obtain ⟨next, stepped, done⟩ := Option.bind_eq_some_iff.mp done
    exact ih (fun other member => keeps other (List.mem_cons_of_mem _ member))
      (keeps one List.mem_cons_self state next start stepped) done

end

theorem momentValue_regular : momentValue.Yields Regular := by
  intro input v rest done
  obtain ⟨after, _, same⟩ := Option.map_eq_some_iff.mp done
  cases same
  exact .datetime _

theorem specialFloat_regular (negative : Bool) : (specialFloat negative).Yields Regular := by
  intro input v rest done
  unfold specialFloat at done
  split at done
  · cases done
    exact .float _
  · cases done
    exact .float _
  · cases done

theorem decimalFloat_regular (negative : Bool) : (decimalFloat negative).Yields Regular := by
  intro input v rest done
  unfold decimalFloat at done
  obtain ⟨⟨whole, after⟩, _, done⟩ := Option.bind_eq_some_iff.mp done
  dsimp only at done
  split at done
  -- With a point or without one, the same is made of what was read.
  all_goals
    obtain ⟨_, _, done⟩ := Option.bind_eq_some_iff.mp done
    obtain ⟨_, _, done⟩ := Option.bind_eq_some_iff.mp done
    split at done
    · cases done
    · cases done
      exact .float _

theorem integerOf_regular {value : Int} {v : Toml} {input rest : List Char}
    (done : integerOf value input = some (v, rest)) : v.Regular := by
  unfold integerOf at done
  split at done
  · cases done
    exact .integer value
  · cases done

theorem wholeNumber_regular : wholeNumber.Yields Regular := by
  intro input v rest done
  unfold wholeNumber at done
  split at done
  all_goals
    obtain ⟨⟨ds, after⟩, _, done⟩ := Option.bind_eq_some_iff.mp done
    exact integerOf_regular done

theorem number_regular : number.Yields Regular := by
  intro input v rest done
  rw [number] at done
  simp only [Option.orElse_eq_orElse, Option.orElse_eq_or, Option.or_eq_some_iff] at done
  obtain moment | ⟨_, decimal | ⟨_, special | ⟨_, whole⟩⟩⟩ := done
  · exact momentValue_regular _ _ _ moment
  · exact decimalFloat_regular _ _ _ _ decimal
  · exact specialFloat_regular _ _ _ _ special
  · exact wholeNumber_regular _ _ _ whole

theorem scalar_regular : scalar.Yields Regular := by
  intro input v rest done
  unfold scalar at done
  split at done
  · cases done
    exact .boolean true
  · cases done
    exact .boolean false
  · split at done
    · obtain ⟨⟨text, after⟩, _, same⟩ := Option.map_eq_some_iff.mp done
      cases same
      exact .string text
    · exact number_regular _ _ _ done
  · cases done

theorem arrayItem_regular {value : Reader Toml} (values : value.Yields Regular) :
    (arrayItem value).Steps Regular := by
  intro input piece rest done one given
  unfold arrayItem at done
  obtain ⟨start, _, done⟩ := Option.bind_eq_some_iff.mp done
  split at done
  · cases done
    cases given
  · obtain ⟨⟨item, after⟩, read, done⟩ := Option.bind_eq_some_iff.mp done
    obtain ⟨left, _, done⟩ := Option.bind_eq_some_iff.mp done
    have item_regular := values _ _ _ read
    split at done
    · cases done
      cases given
      exact item_regular
    · cases done
      cases given
      exact item_regular
    · cases done

theorem pair_regular {value : Reader Toml} (values : value.Yields Regular) :
    (pair value).Yields fun entry => entry.2.Regular := by
  intro input entry rest done
  unfold pair at done
  obtain ⟨⟨name, after⟩, _, done⟩ := Option.bind_eq_some_iff.mp done
  obtain ⟨start, _, done⟩ := Option.bind_eq_some_iff.mp done
  obtain ⟨⟨v, left⟩, read, done⟩ := Option.bind_eq_some_iff.mp done
  cases done
  exact values _ _ _ read

theorem inlinePair_regular {value : Reader Toml} (values : value.Yields Regular) :
    (inlinePair value).Steps fun entry => entry.2.Regular := by
  intro input piece rest done one given
  unfold inlinePair at done
  dsimp only at done
  split at done
  · cases done
    cases given
  · obtain ⟨⟨entry, after⟩, read, done⟩ := Option.bind_eq_some_iff.mp done
    have entry_regular := pair_regular values _ _ _ read
    dsimp only at done
    split at done
    · split at done
      · cases done
      · cases done
        cases given
        exact entry_regular
    · cases done
      cases given
      exact entry_regular
    · cases done

theorem inlineTable_regular {pairs : List ((List String × String) × Toml)} {v : Toml}
    (each : ∀ entry ∈ pairs, entry.2.Regular) (made : inlineTable pairs = some v) : v.Regular := by
  unfold inlineTable at made
  obtain ⟨branches, added, made⟩ := Option.bind_eq_some_iff.mp made
  cases made
  refine Branches.Regular.freeze (foldlM_keeps ?_ Branches.Regular.empty added)
  intro entry member state next regular stepped
  exact Branch.addPair_regular (each entry member) regular stepped

theorem value_regular (depth : Nat) : (value depth).Yields Regular := by
  induction depth with
  | zero => exact scalar_regular
  | succ depth ih =>
    intro input v rest done
    unfold value at done
    split at done
    · obtain ⟨⟨items, after⟩, read, same⟩ := Option.map_eq_some_iff.mp done
      cases same
      exact .array (collect_yields (arrayItem_regular ih) _ _ _ read)
    · obtain ⟨⟨pairs, after⟩, read, done⟩ := Option.bind_eq_some_iff.mp done
      obtain ⟨table, made, done⟩ := Option.bind_eq_some_iff.mp done
      cases done
      exact inlineTable_regular (collect_yields (inlinePair_regular ih) _ _ _ read) made
    · exact scalar_regular _ _ _ done

-- The value of a pair is a tree of its own.
def Statement.Regular : Statement → Prop
  | .pair _ _ v => v.Regular
  | _ => True

theorem header_regular : Reader.Yields header Statement.Regular := by
  intro input statement rest done
  unfold header at done
  split at done
  · obtain ⟨⟨⟨path, name⟩, after⟩, _, done⟩ := Option.bind_eq_some_iff.mp done
    obtain ⟨_, _, done⟩ := Option.bind_eq_some_iff.mp done
    obtain ⟨_, _, done⟩ := Option.bind_eq_some_iff.mp done
    cases done
    trivial
  · obtain ⟨⟨⟨path, name⟩, after⟩, _, done⟩ := Option.bind_eq_some_iff.mp done
    obtain ⟨_, _, done⟩ := Option.bind_eq_some_iff.mp done
    cases done
    trivial
  · cases done

theorem line_regular :
    line.Steps fun piece => ∀ statement, piece = some statement → statement.Regular := by
  intro input piece rest done one given statement holds
  unfold line at done
  dsimp only at done
  split at done
  · cases done
    cases given
  · obtain ⟨⟨header, after⟩, read, done⟩ := Option.bind_eq_some_iff.mp done
    obtain ⟨_, _, done⟩ := Option.bind_eq_some_iff.mp done
    cases done
    cases given
    cases holds
    exact header_regular _ _ _ read
  · split at done
    · obtain ⟨_, _, done⟩ := Option.bind_eq_some_iff.mp done
      cases done
      cases given
      cases holds
    · obtain ⟨⟨⟨⟨path, name⟩, v⟩, after⟩, read, done⟩ := Option.bind_eq_some_iff.mp done
      obtain ⟨_, _, done⟩ := Option.bind_eq_some_iff.mp done
      cases done
      cases given
      cases holds
      exact pair_regular (value_regular _) _ _ _ read

theorem statements_regular {text : List Char} {all : List Statement}
    (read : statements text = some all) : ∀ statement ∈ all, statement.Regular := by
  unfold statements at read
  obtain ⟨⟨lines, after⟩, collected, done⟩ := Option.bind_eq_some_iff.mp read
  cases done
  intro statement member
  obtain ⟨piece, listed, same⟩ := List.mem_filterMap.mp member
  exact collect_yields line_regular _ _ _ collected piece listed statement same

theorem Statement.apply_regular {statement : Statement} (sound : statement.Regular)
    {before after : Progress} (regular : Branches.Regular before.root)
    (applied : statement.apply before = some after) : Branches.Regular after.root := by
  cases statement with
  | table path name =>
    obtain ⟨root, changed, done⟩ := Option.bind_eq_some_iff.mp applied
    cases done
    exact Branch.atPath_regular (fun _ _ => Branch.openTable_regular) regular changed
  | tableOfArray path name =>
    obtain ⟨root, changed, done⟩ := Option.bind_eq_some_iff.mp applied
    cases done
    exact Branch.atPath_regular (fun _ _ => Branch.openRow_regular) regular changed
  | pair path name v =>
    obtain ⟨root, changed, done⟩ := Option.bind_eq_some_iff.mp applied
    cases done
    exact Branch.atPath_regular (fun _ _ => Branch.addPair_regular sound) regular changed

-- The document that a text is read as is regular at any depth.
theorem parse?_regular {text : String} {document : List (String × Toml)}
    (parsed : parse? text = some document) : (Toml.table document).Regular := by
  unfold parse? at parsed
  obtain ⟨all, read, parsed⟩ := Option.bind_eq_some_iff.mp parsed
  obtain ⟨progress, applied, done⟩ := Option.bind_eq_some_iff.mp parsed
  cases done
  have keeps : ∀ statement ∈ all, ∀ before after : Progress, Branches.Regular before.root →
      statement.apply before = some after → Branches.Regular after.root := by
    intro statement member before after regular stepped
    exact Statement.apply_regular (statements_regular read statement member) regular stepped
  exact (foldlM_keeps keeps .empty applied).freeze

end StackTemplate.Toml
