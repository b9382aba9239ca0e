import Mathlib.Data.List.Perm.Subperm
import StackTemplate.Proofs.Occurrence
import StackTemplate.Value.Same

namespace StackTemplate

namespace Binary64

theorem sameNumber_comm (x y : Binary64) : x.sameNumber y = y.sameNumber x := by
  rw [sameNumber, sameNumber, Bool.and_comm (!x.isNaN), Bool.and_comm x.isZero, Bool.beq_comm]

theorem sameNumber_iff {x y : Binary64} : x.sameNumber y = true ↔
    x.isNaN = false ∧ y.isNaN = false ∧ (x = y ∨ x.isZero = true ∧ y.isZero = true) := by
  simp [sameNumber, and_assoc]

theorem sameNumber_trans {x y z : Binary64} (first : x.sameNumber y = true)
    (second : y.sameNumber z = true) : x.sameNumber z = true := by
  obtain ⟨left, _, equal⟩ := sameNumber_iff.mp first
  obtain ⟨_, right, following⟩ := sameNumber_iff.mp second
  refine sameNumber_iff.mpr ⟨left, right, ?_⟩
  cases equal with
  | inl same => exact same ▸ following
  | inr zeros =>
    cases following with
    | inl same => exact .inr ⟨zeros.1, same ▸ zeros.2⟩
    | inr others => exact .inr ⟨zeros.1, others.2⟩

end Binary64

namespace Number

theorem same_symm {m n : Number} (same : m.same n = true) : n.same m = true := by
  cases m with
  | int a =>
    cases n with
    | int b =>
      have equal : a = b := by simpa [Number.same] using same
      simp [Number.same, equal]
    | float y => cases same
  | float x =>
    cases n with
    | int b => cases same
    | float y => exact (y.sameNumber_comm x).trans same

theorem same_trans {l m n : Number} (first : l.same m = true) (second : m.same n = true) :
    l.same n = true := by
  cases l with
  | int a =>
    cases m with
    | int b =>
      have equal : a = b := by simpa [Number.same] using first
      exact equal ▸ second
    | float y => cases first
  | float x =>
    cases m with
    | int b => cases first
    | float y =>
      cases n with
      | int c => cases second
      | float z => exact Binary64.sameNumber_trans first second

end Number

-- As many distinct keys on either side, so that none can be missing on one of them.
theorem Entries.keys_subset {α : Type} {as bs : Entries α} (distinct : Distinct as)
    (length : as.length = bs.length) (known : keys as ⊆ keys bs) : keys bs ⊆ keys as := by
  have counts : (keys bs).length ≤ (keys as).length := by
    simp [keys, length]
  exact ((List.Nodup.subperm distinct known).perm_of_length_le counts).symm.subset

namespace Value

-- Induction over a value from the values that stand directly in it.
@[elab_as_elim]
theorem nested {motive : Value → Prop} (string : ∀ text, motive (.string text))
    (number : ∀ n, motive (.number n)) (bool : ∀ b, motive (.bool b))
    (list : ∀ items, (∀ v ∈ items, motive v) → motive (.list items))
    (map : ∀ entries, (∀ entry ∈ entries, motive entry.2) → motive (.map entries))
    (ref : ∀ target, motive (.ref target)) (getAtt : ∀ target name, motive (.getAtt target name))
    (pseudo : ∀ parameter, motive (.pseudo parameter))
    (join : ∀ separator parts, (∀ v ∈ parts, motive v) → motive (.join separator parts))
    (choose : ∀ condition a b, motive a → motive b → motive (.choose condition a b))
    (equals : ∀ a b, motive a → motive b → motive (.equals a b))
    (base64 : ∀ v, motive v → motive (.base64 v)) : ∀ v, motive v := by
  intro v
  induction size : sizeOf v using Nat.strongRecOn generalizing v with
  | ind bound smaller =>
    subst size
    cases v with
    | string text => exact string text
    | number n => exact number n
    | bool b => exact bool b
    | list items =>
      refine list items fun v member => smaller _ ?_ v rfl
      have inside := List.sizeOf_lt_of_mem member
      rw [Value.list.sizeOf_spec]
      omega
    | map entries =>
      refine map entries fun entry member => smaller _ ?_ entry.2 rfl
      have inside := List.sizeOf_lt_of_mem member
      have part : sizeOf entry.2 < sizeOf entry := by
        obtain ⟨key, v⟩ := entry
        rw [Prod.mk.sizeOf_spec]
        dsimp only
        omega
      rw [Value.map.sizeOf_spec]
      omega
    | ref target => exact ref target
    | getAtt target name => exact getAtt target name
    | pseudo parameter => exact pseudo parameter
    | join separator parts =>
      refine join separator parts fun v member => smaller _ ?_ v rfl
      have inside := List.sizeOf_lt_of_mem member
      rw [Value.join.sizeOf_spec]
      omega
    | choose condition a b =>
      have whole := Value.choose.sizeOf_spec condition a b
      exact choose condition a b (smaller _ (by omega) a rfl) (smaller _ (by omega) b rfl)
    | equals a b =>
      have whole := Value.equals.sizeOf_spec a b
      exact equals a b (smaller _ (by omega) a rfl) (smaller _ (by omega) b rfl)
    | base64 v =>
      have whole := Value.base64.sizeOf_spec v
      exact base64 v (smaller _ (by omega) v rfl)

-- The keys of every map that stands in the value, at any depth, are distinct.
def Keyed (v : Value) : Prop := ∀ entries, (Value.map entries).Within v → Entries.Distinct entries

def NaNFree (v : Value) : Prop := ∀ x, (Value.number (.float x)).Within v → x.isNaN = false

instance {α : Type} (entries : Entries α) : Decidable entries.Distinct :=
  inferInstanceAs (Decidable (Entries.keys entries).Nodup)

def uniqueKeys : Value → Bool
  | .map entries => decide (Entries.Distinct entries)
  | _ => true

instance (v : Value) : Decidable v.Keyed :=
  decidable_of_iff (v.nodes.all uniqueKeys = true) (by
    rw [List.all_eq_true]
    constructor
    · intro unique entries inside
      exact of_decide_eq_true (unique _ (mem_nodes.mpr inside))
    · intro keyed node listed
      cases node with
      | map entries => exact decide_eq_true (keyed entries (mem_nodes.mp listed))
      | _ => rfl)

-- Sameness said constructor by constructor. What is known under one key on one side is known under
-- it on the other, wherever it stands.
inductive Alike : Value → Value → Prop where
  | string (text : String) : Alike (.string text) (.string text)
  | number {m n : Number} (same : m.same n = true) : Alike (.number m) (.number n)
  | bool (value : Bool) : Alike (.bool value) (.bool value)
  | list {as bs : List Value} (length : as.length = bs.length)
      (each : ∀ (i : Nat) a b, as[i]? = some a → bs[i]? = some b → Alike a b) : Alike (.list as) (.list bs)
  | map {as bs : List (String × Value)} (length : as.length = bs.length)
      (known : Entries.keys as ⊆ Entries.keys bs)
      (each : ∀ key a b, (key, a) ∈ as → Entries.find? bs key = some b → Alike a b) :
      Alike (.map as) (.map bs)
  | ref (target : LogicalId) : Alike (.ref target) (.ref target)
  | getAtt (target : LogicalId) (name : String) : Alike (.getAtt target name) (.getAtt target name)
  | pseudo (parameter : Pseudo) : Alike (.pseudo parameter) (.pseudo parameter)
  | join (separator : String) {as bs : List Value} (length : as.length = bs.length)
      (each : ∀ (i : Nat) a b, as[i]? = some a → bs[i]? = some b → Alike a b) :
      Alike (.join separator as) (.join separator bs)
  | choose (condition : LogicalId) {a b x y : Value} (first : Alike a x) (second : Alike b y) :
      Alike (.choose condition a b) (.choose condition x y)
  | equals {a b x y : Value} (left : Alike a x) (right : Alike b y) :
      Alike (.equals a b) (.equals x y)
  | base64 {v w : Value} (inner : Alike v w) : Alike (.base64 v) (.base64 w)

theorem sameItems_iff {as bs : List Value} : sameItems as bs = true ↔
    as.length = bs.length ∧
      ∀ (i : Nat) a b, as[i]? = some a → bs[i]? = some b → a.same b = true := by
  induction as generalizing bs with
  | nil => cases bs <;> simp [sameItems]
  | cons a as ih =>
    cases bs with
    | nil => simp [sameItems]
    | cons b bs =>
      rw [sameItems, Bool.and_eq_true, ih]
      constructor
      · rintro ⟨first, length, rest⟩
        refine ⟨congrArg (· + 1) length, fun i x y left right => ?_⟩
        cases i with
        | zero =>
          cases left
          cases right
          exact first
        | succ i => exact rest i x y left right
      · intro ⟨length, each⟩
        exact ⟨each 0 a b rfl rfl, Nat.succ.inj length,
          fun i x y left right => each (i + 1) x y left right⟩

theorem sameEntries_iff {as other : List (String × Value)} : sameEntries as other = true ↔
    ∀ key a, (key, a) ∈ as → ∃ b, Entries.find? other key = some b ∧ a.same b = true := by
  induction as with
  | nil => simp [sameEntries]
  | cons entry as ih =>
    obtain ⟨key, a⟩ := entry
    have here : sameEntries ((key, a) :: as) other = true ↔
        (∃ b, Entries.find? other key = some b ∧ a.same b = true) ∧
          sameEntries as other = true := by
      rw [sameEntries, Bool.and_eq_true]
      cases Entries.find? other key <;> simp
    rw [here, ih]
    constructor
    · intro ⟨first, rest⟩ k x member
      cases List.mem_cons.mp member with
      | inl same =>
        cases same
        exact first
      | inr later => exact rest k x later
    · intro each
      exact ⟨each key a List.mem_cons_self,
        fun k x member => each k x (List.mem_cons_of_mem _ member)⟩

theorem alike_of_same {a b : Value} (same : a.same b = true) : a.Alike b := by
  induction a using nested generalizing b with
  | string text =>
    cases b with
    | string other =>
      have equal : text = other := by simpa [Value.same] using same
      exact equal ▸ .string text
    | _ => cases same
  | number n =>
    cases b with
    | number m => exact .number same
    | _ => cases same
  | bool value =>
    cases b with
    | bool other =>
      have equal : value = other := by simpa [Value.same] using same
      exact equal ▸ .bool value
    | _ => cases same
  | list as ih =>
    cases b with
    | list bs =>
      obtain ⟨length, each⟩ := sameItems_iff.mp same
      exact .list length fun i a b left right =>
        ih a (List.mem_of_getElem? left) (each i a b left right)
    | _ => cases same
  | map as ih =>
    cases b with
    | map bs =>
      rw [Value.same, Bool.and_eq_true, beq_iff_eq, sameEntries_iff] at same
      obtain ⟨length, each⟩ := same
      refine .map length ?_ ?_
      · intro key listed
        obtain ⟨⟨k, a⟩, member, rfl⟩ := List.mem_map.mp listed
        obtain ⟨b, found, _⟩ := each k a member
        have there := Entries.mem_of_find? found
        exact List.mem_map_of_mem (f := (·.1)) there
      · intro key a b member found
        obtain ⟨other, again, equal⟩ := each key a member
        rw [found] at again
        cases again
        exact ih (key, a) member equal
    | _ => cases same
  | ref target =>
    cases b with
    | ref other =>
      have equal : target = other := by simpa [Value.same] using same
      exact equal ▸ .ref target
    | _ => cases same
  | getAtt target name =>
    cases b with
    | getAtt other label =>
      have equal : target = other ∧ name = label := by simpa [Value.same] using same
      exact equal.1 ▸ equal.2 ▸ .getAtt target name
    | _ => cases same
  | pseudo parameter =>
    cases b with
    | pseudo other =>
      have equal : parameter = other := by simpa [Value.same] using same
      exact equal ▸ .pseudo parameter
    | _ => cases same
  | join separator as ih =>
    cases b with
    | join other bs =>
      rw [Value.same, Bool.and_eq_true, beq_iff_eq, sameItems_iff] at same
      obtain ⟨rfl, length, each⟩ := same
      exact .join separator length fun i a b left right =>
        ih a (List.mem_of_getElem? left) (each i a b left right)
    | _ => cases same
  | choose condition a b first second =>
    cases b with
    | choose other x y =>
      simp only [Value.same, Bool.and_eq_true, beq_iff_eq] at same
      obtain ⟨⟨rfl, left⟩, right⟩ := same
      exact .choose condition (first left) (second right)
    | _ => cases same
  | equals a b first second =>
    cases b with
    | equals x y =>
      rw [Value.same, Bool.and_eq_true] at same
      exact .equals (first same.1) (second same.2)
    | _ => cases same
  | base64 v inner =>
    cases b with
    | base64 w => exact .base64 (inner same)
    | _ => cases same

theorem Alike.same {a b : Value} (alike : a.Alike b) : a.same b = true := by
  induction alike with
  | string text => simp [Value.same]
  | number same => exact same
  | bool value => simp [Value.same]
  | list length _ ih => exact sameItems_iff.mpr ⟨length, ih⟩
  | map length known _ ih =>
    rw [Value.same, Bool.and_eq_true, beq_iff_eq, sameEntries_iff]
    refine ⟨length, fun key a member => ?_⟩
    obtain ⟨b, found⟩ := Entries.find?_of_key (known (List.mem_map_of_mem member))
    exact ⟨b, found, ih key a b member found⟩
  | ref target => simp [Value.same]
  | getAtt target name => simp [Value.same]
  | pseudo parameter => simp [Value.same]
  | join separator length _ ih =>
    rw [Value.same, Bool.and_eq_true, beq_iff_eq, sameItems_iff]
    exact ⟨rfl, length, ih⟩
  | choose condition _ _ first second => simp [Value.same, first, second]
  | equals _ _ left right => simp [Value.same, left, right]
  | base64 _ inner => exact inner

theorem same_iff {a b : Value} : a.same b = true ↔ a.Alike b := ⟨alike_of_same, Alike.same⟩

theorem Within.trans {node v w : Value} (inner : node.Within v) (outer : v.Within w) :
    node.Within w := by
  induction outer with
  | here => exact inner
  | item member _ ih => exact .item member ih
  | entry member _ ih => exact .entry member ih
  | part member _ ih => exact .part member ih
  | whenTrue _ ih => exact .whenTrue ih
  | whenFalse _ ih => exact .whenFalse ih
  | left _ ih => exact .left ih
  | right _ ih => exact .right ih
  | encoded _ ih => exact .encoded ih

theorem Keyed.inner {v w : Value} (keyed : w.Keyed) (inside : v.Within w) : v.Keyed :=
  fun entries within => keyed entries (within.trans inside)

theorem NaNFree.inner {v w : Value} (clean : w.NaNFree) (inside : v.Within w) : v.NaNFree :=
  fun x within => clean x (within.trans inside)

theorem Alike.symm {a b : Value} (alike : a.Alike b) (keyed : a.Keyed) (other : b.Keyed) :
    b.Alike a := by
  induction alike with
  | string text => exact .string text
  | number same => exact .number (Number.same_symm same)
  | bool value => exact .bool value
  | list length _ ih =>
    refine .list length.symm fun i b a right left => ih i a b left right ?_ ?_
    · exact keyed.inner (.item (List.mem_of_getElem? left) .here)
    · exact other.inner (.item (List.mem_of_getElem? right) .here)
  | map length known _ ih =>
    have back := Entries.keys_subset (keyed _ .here) length known
    refine .map length.symm back fun key b a member found => ?_
    have there := Entries.mem_of_find? found
    refine ih key a b there (Entries.find?_of_mem (other _ .here) member) ?_ ?_
    · exact keyed.inner (.entry there .here)
    · exact other.inner (.entry member .here)
  | ref target => exact .ref target
  | getAtt target name => exact .getAtt target name
  | pseudo parameter => exact .pseudo parameter
  | join separator length _ ih =>
    refine .join separator length.symm fun i b a right left => ih i a b left right ?_ ?_
    · exact keyed.inner (.part (List.mem_of_getElem? left) .here)
    · exact other.inner (.part (List.mem_of_getElem? right) .here)
  | choose condition _ _ first second =>
    apply Alike.choose
    · exact first (keyed.inner (.whenTrue .here)) (other.inner (.whenTrue .here))
    · exact second (keyed.inner (.whenFalse .here)) (other.inner (.whenFalse .here))
  | equals _ _ left right =>
    apply Alike.equals
    · exact left (keyed.inner (.left .here)) (other.inner (.left .here))
    · exact right (keyed.inner (.right .here)) (other.inner (.right .here))
  | base64 _ inner =>
    exact .base64 (inner (keyed.inner (.encoded .here)) (other.inner (.encoded .here)))

-- What stands at a place of one list has a counterpart in every list of the same length.
theorem counterpart {as bs : List Value} (length : as.length = bs.length) {i : Nat} {a : Value}
    (here : as[i]? = some a) : ∃ b, bs[i]? = some b := by
  obtain ⟨inside, _⟩ := List.getElem?_eq_some_iff.mp here
  exact ⟨_, List.getElem?_eq_getElem (length ▸ inside)⟩

theorem Alike.trans {a b c : Value} (first : a.Alike b) (second : b.Alike c) : a.Alike c := by
  induction first generalizing c with
  | string => exact second
  | number same =>
    cases second with
    | number following => exact .number (Number.same_trans same following)
  | bool => exact second
  | list length _ ih =>
    cases second with
    | list more each =>
      refine .list (length.trans more) fun i a c left right => ?_
      obtain ⟨b, middle⟩ := counterpart length left
      exact ih i a b left middle (each i b c middle right)
  | map length known _ ih =>
    cases second with
    | map more further each =>
      refine .map (length.trans more) (List.Subset.trans known further) fun key a c member found => ?_
      obtain ⟨b, middle⟩ := Entries.find?_of_key (known (List.mem_map_of_mem member))
      exact ih key a b member middle (each key b c (Entries.mem_of_find? middle) found)
  | ref => exact second
  | getAtt => exact second
  | pseudo => exact second
  | join separator length _ ih =>
    cases second with
    | join _ more each =>
      refine .join separator (length.trans more) fun i a c left right => ?_
      obtain ⟨b, middle⟩ := counterpart length left
      exact ih i a b left middle (each i b c middle right)
  | choose condition _ _ whenTrue whenFalse =>
    cases second with
    | choose _ third fourth => exact .choose condition (whenTrue third) (whenFalse fourth)
  | equals _ _ left right =>
    cases second with
    | equals third fourth => exact .equals (left third) (right fourth)
  | base64 _ inner =>
    cases second with
    | base64 further => exact .base64 (inner further)

-- What equals something is no NaN, at any depth.
theorem Alike.nanFree {a b : Value} (alike : a.Alike b) : a.NaNFree := by
  intro x within
  induction alike with
  | string => cases within
  | @number m n same =>
    cases within
    cases n with
    | int => cases same
    | float y => exact (Binary64.sameNumber_iff.mp same).1
  | bool => cases within
  | list length _ ih =>
    cases within with
    | item member inside =>
      obtain ⟨i, left⟩ := List.mem_iff_getElem?.mp member
      obtain ⟨b, right⟩ := counterpart length left
      exact ih i _ b left right inside
  | map length known _ ih =>
    cases within with
    | entry member inside =>
      obtain ⟨b, found⟩ := Entries.find?_of_key (known (List.mem_map_of_mem member))
      exact ih _ _ b member found inside
  | ref => cases within
  | getAtt => cases within
  | pseudo => cases within
  | join _ length _ ih =>
    cases within with
    | part member inside =>
      obtain ⟨i, left⟩ := List.mem_iff_getElem?.mp member
      obtain ⟨b, right⟩ := counterpart length left
      exact ih i _ b left right inside
  | choose _ _ _ first second =>
    cases within with
    | whenTrue inside => exact first inside
    | whenFalse inside => exact second inside
  | equals _ _ left right =>
    cases within with
    | left inside => exact left inside
    | right inside => exact right inside
  | base64 _ inner =>
    cases within with
    | encoded inside => exact inner inside

theorem Alike.self {v : Value} (keyed : v.Keyed) (clean : v.NaNFree) : v.Alike v := by
  induction v using nested with
  | string text => exact .string text
  | number n =>
    cases n with
    | int value => exact .number (by simp [Number.same])
    | float x =>
      have proper := clean x .here
      exact .number (Binary64.sameNumber_iff.mpr ⟨proper, proper, .inl rfl⟩)
  | bool value => exact .bool value
  | list items ih =>
    refine .list rfl fun i a b left right => ?_
    cases left.symm.trans right
    have member := List.mem_of_getElem? left
    exact ih a member (keyed.inner (.item member .here)) (clean.inner (.item member .here))
  | map entries ih =>
    refine .map rfl (fun _ listed => listed) fun key a b member found => ?_
    cases (Entries.find?_of_mem (keyed _ .here) member).symm.trans found
    exact ih (key, a) member (keyed.inner (.entry member .here))
      (clean.inner (.entry member .here))
  | ref target => exact .ref target
  | getAtt target name => exact .getAtt target name
  | pseudo parameter => exact .pseudo parameter
  | join separator parts ih =>
    refine .join separator rfl fun i a b left right => ?_
    cases left.symm.trans right
    have member := List.mem_of_getElem? left
    exact ih a member (keyed.inner (.part member .here)) (clean.inner (.part member .here))
  | choose condition a b first second =>
    apply Alike.choose
    · exact first (keyed.inner (.whenTrue .here)) (clean.inner (.whenTrue .here))
    · exact second (keyed.inner (.whenFalse .here)) (clean.inner (.whenFalse .here))
  | equals a b first second =>
    apply Alike.equals
    · exact first (keyed.inner (.left .here)) (clean.inner (.left .here))
    · exact second (keyed.inner (.right .here)) (clean.inner (.right .here))
  | base64 v inner =>
    exact .base64 (inner (keyed.inner (.encoded .here)) (clean.inner (.encoded .here)))

end Value

end StackTemplate
