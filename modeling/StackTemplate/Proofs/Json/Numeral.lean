import StackTemplate.Json

namespace StackTemplate

namespace Json

def isDigits (text : List Char) : Bool := !text.isEmpty && text.all Char.isDigit

def isWhole (text : List Char) : Bool := isDigits text && (text == ['0'] || text.head? != some '0')

-- What may follow the whole digits, from the exponent on.
def isExponent : List Char → Bool
  | [] => true
  | mark :: rest => (mark == 'e' || mark == 'E') && isDigits (Binary64.splitSign rest).2

def isTail : List Char → Bool
  | '.' :: rest => isDigits (rest.takeWhile Char.isDigit) && isExponent (rest.dropWhile Char.isDigit)
  | rest => isExponent rest

def unsigned : List Char → List Char
  | '-' :: rest => rest
  | rest => rest

-- A number token: a sign or none, whole digits, a fraction or none, an exponent or none.
def isNumeral (token : List Char) : Bool :=
  isWhole ((unsigned token).takeWhile Char.isDigit) && isTail ((unsigned token).dropWhile Char.isDigit)

def isNumeric (c : Char) : Bool := c.isDigit || c ∈ ['-', '+', '.', 'e', 'E']

theorem isDigits_iff {text : List Char} :
    isDigits text = true ↔ text ≠ [] ∧ ∀ c ∈ text, c.isDigit = true := by
  simp [isDigits]

theorem isWhole_iff {text : List Char} :
    isWhole text = true ↔ isDigits text = true ∧ (text = ['0'] ∨ text.head? ≠ some '0') := by
  simp [isWhole]

-- A run of characters of one kind goes as far as they do.
theorem run_split {kind : Char → Bool} {run rest : List Char} (inside : ∀ c ∈ run, kind c = true)
    (ends : ∀ c, rest.head? = some c → kind c = false) :
    (run ++ rest).takeWhile kind = run ∧ (run ++ rest).dropWhile kind = rest := by
  rw [List.takeWhile_append_of_pos inside, List.dropWhile_append_of_pos inside]
  cases rest with
  | nil => exact ⟨List.append_nil run, rfl⟩
  | cons c rest => simp [ends c rfl]

theorem isExponent_head {text : List Char} (exponent : isExponent text = true) :
    ∀ c, text.head? = some c → c.isDigit = false := by
  intro c first
  cases text with
  | nil => cases first
  | cons mark rest =>
    cases first
    simp only [isExponent, Bool.and_eq_true, Bool.or_eq_true, beq_iff_eq] at exponent
    rcases exponent.1 with rfl | rfl <;> rfl

theorem isTail_head {text : List Char} (tail : isTail text = true) :
    ∀ c, text.head? = some c → c.isDigit = false := by
  unfold isTail at tail
  split at tail
  · intro c first
    cases first
    rfl
  · exact isExponent_head tail

theorem isTail_fraction {digits exponent : List Char} (fraction : isDigits digits = true)
    (power : isExponent exponent = true) : isTail ('.' :: (digits ++ exponent)) = true := by
  obtain ⟨run, rest⟩ := run_split (isDigits_iff.mp fraction).2 (isExponent_head power)
  rw [isTail, run, rest, fraction, power]
  rfl

theorem isTail_point {digits : List Char} (fraction : isDigits digits = true) :
    isTail ('.' :: digits) = true := by
  have none_left : isExponent [] = true := rfl
  have tail := isTail_fraction fraction none_left
  rwa [List.append_nil] at tail

def Magnitude (text : List Char) : Prop :=
  ∃ whole tail, text = whole ++ tail ∧ isWhole whole = true ∧ isTail tail = true

theorem Magnitude.numeral {text : List Char} (magnitude : Magnitude text) (negative : Bool) :
    isNumeral (if negative then '-' :: text else text) = true := by
  obtain ⟨whole, tail, rfl, front, back⟩ := magnitude
  obtain ⟨some_digit, digits⟩ := isDigits_iff.mp (isWhole_iff.mp front).1
  have body : unsigned (if negative then '-' :: (whole ++ tail) else whole ++ tail) = whole ++ tail := by
    cases negative with
    | true => rfl
    | false =>
      cases whole with
      | nil => exact absurd rfl some_digit
      | cons first rest =>
        have digit := digits first List.mem_cons_self
        have apart : first ≠ '-' := by
          rintro rfl
          exact absurd digit (by decide)
        simp [unsigned, apart]
  obtain ⟨run, rest⟩ := run_split digits (isTail_head back)
  rw [isNumeral, body, run, rest, front, back]
  rfl

theorem isNumeric_of_digit {c : Char} (digit : c.isDigit = true) : isNumeric c = true := by
  rw [isNumeric, digit, Bool.true_or]

theorem isNumeric_of_exponent {text : List Char} (exponent : isExponent text = true) :
    ∀ c ∈ text, isNumeric c = true := by
  cases text with
  | nil => exact nofun
  | cons mark rest =>
    simp only [isExponent, Bool.and_eq_true, Bool.or_eq_true, beq_iff_eq] at exponent
    obtain ⟨named, digits⟩ := exponent
    have power := (isDigits_iff.mp digits).2
    refine List.forall_mem_cons.mpr ⟨by rcases named with rfl | rfl <;> rfl, fun c member => ?_⟩
    unfold Binary64.splitSign at power
    split at power
    · rcases List.mem_cons.mp member with rfl | later
      · rfl
      · exact isNumeric_of_digit (power c later)
    · rcases List.mem_cons.mp member with rfl | later
      · rfl
      · exact isNumeric_of_digit (power c later)
    · exact isNumeric_of_digit (power c member)

theorem isNumeric_of_tail {text : List Char} (tail : isTail text = true) :
    ∀ c ∈ text, isNumeric c = true := by
  unfold isTail at tail
  split at tail
  · rename_i rest
    obtain ⟨_, exponent⟩ := Bool.and_eq_true_iff.mp tail
    refine List.forall_mem_cons.mpr ⟨rfl, fun c member => ?_⟩
    rw [← List.takeWhile_append_dropWhile (p := Char.isDigit) (l := rest)] at member
    rcases List.mem_append.mp member with digit | later
    · exact isNumeric_of_digit (List.all_eq_true.mp List.all_takeWhile c digit)
    · exact isNumeric_of_exponent exponent c later
  · exact isNumeric_of_exponent tail

theorem isNumeric_of_numeral {token : List Char} (numeral : isNumeral token = true) :
    token ≠ [] ∧ ∀ c ∈ token, isNumeric c = true := by
  obtain ⟨whole, tail⟩ := Bool.and_eq_true_iff.mp numeral
  obtain ⟨some_digit, digits⟩ := isDigits_iff.mp (isWhole_iff.mp whole).1
  have body : ∀ c ∈ unsigned token, isNumeric c = true := by
    intro c member
    rw [← List.takeWhile_append_dropWhile (p := Char.isDigit) (l := unsigned token)] at member
    rcases List.mem_append.mp member with digit | later
    · exact isNumeric_of_digit (digits c digit)
    · exact isNumeric_of_tail tail c later
  constructor
  · rintro rfl
    exact some_digit rfl
  · intro c member
    unfold unsigned at body
    split at body
    · rcases List.mem_cons.mp member with rfl | later
      · rfl
      · exact body c later
    · exact body c member

end Json

section
open Json Binary64

theorem Binary64.decimalDigits_isDigits (n : Nat) : isDigits (decimalDigits n) = true :=
  isDigits_iff.mpr ⟨Nat.toDigits_ne_nil, fun _ => Nat.isDigit_of_mem_toDigits (by decide) (by decide)⟩

-- Only the number zero begins with a zero.
theorem Binary64.decimalDigits_head {n : Nat} (positive : 0 < n) :
    (decimalDigits n).head? ≠ some '0' := by
  induction n using Nat.strongRecOn with
  | ind n ih =>
    unfold decimalDigits at ih ⊢
    by_cases small : n < 10
    · rw [Nat.toDigits_of_lt_base small]
      have digits : ∀ d < 10, 0 < d → Nat.digitChar d ≠ '0' := by decide
      simpa using digits n small positive
    · have earlier := ih (n / 10) (by omega) (by omega)
      rw [Nat.toDigits_of_base_le (by decide) (by omega), List.head?_append]
      cases front : (Nat.toDigits 10 (n / 10)).head? with
      | none => exact absurd (List.head?_eq_none_iff.mp front) Nat.toDigits_ne_nil
      | some first =>
        rw [front] at earlier
        exact earlier

theorem Binary64.decimalDigits_isWhole (n : Nat) : isWhole (decimalDigits n) = true := by
  refine isWhole_iff.mpr ⟨decimalDigits_isDigits n, ?_⟩
  rcases Nat.eq_zero_or_pos n with rfl | positive
  · exact .inl rfl
  · exact .inr (decimalDigits_head positive)

namespace Binary64.Decimal
variable {d : Decimal}

theorem digits_eq (d : Decimal) : d.digits = decimalDigits d.coefficient := rfl

theorem isWhole_single {first : Char} (digit : first.isDigit = true) : isWhole [first] = true := by
  refine isWhole_iff.mpr ⟨isDigits_iff.mpr ⟨nofun, List.forall_mem_singleton.mpr digit⟩, ?_⟩
  by_cases zero : first = '0'
  · exact .inl (congrArg (fun c => [c]) zero)
  · exact .inr fun same => zero (Option.some.inj same)

theorem scientific_magnitude (d : Decimal) : Magnitude d.scientific := by
  obtain ⟨some_digit, digits⟩ := isDigits_iff.mp (decimalDigits_isDigits d.coefficient)
  have exponent : isExponent
      ('e' :: (if d.point - 1 < 0 then '-' else '+') :: decimalDigits (d.point - 1).natAbs) = true := by
    have power := decimalDigits_isDigits (d.point - 1).natAbs
    split <;> exact power
  rw [← digits_eq] at some_digit digits
  unfold scientific
  dsimp only
  cases written : d.digits with
  | nil => exact absurd written some_digit
  | cons first more =>
    rw [written] at digits
    obtain ⟨digit, others⟩ := List.forall_mem_cons.mp digits
    cases more with
    | nil => exact ⟨[first], _, rfl, isWhole_single digit, exponent⟩
    | cons second rest =>
      refine ⟨[first], '.' :: (second :: rest ++ _), rfl, isWhole_single digit,
        isTail_fraction ?_ exponent⟩
      exact isDigits_iff.mpr ⟨nofun, others⟩

-- A zero is written with a single zero in front of the point only if it counts no higher places.
theorem positional_magnitude (plain : d.coefficient = 0 → d.exponent = 0) :
    Magnitude d.positional := by
  obtain ⟨some_digit, digits⟩ := isDigits_iff.mp (decimalDigits_isDigits d.coefficient)
  rw [← digits_eq] at some_digit digits
  have zeros (count : Nat) : ∀ c ∈ List.replicate count '0', c.isDigit = true := by
    intro c member
    rw [List.eq_of_mem_replicate member]
    rfl
  have length : 0 < d.digits.length := List.length_pos_iff.mpr some_digit
  unfold positional
  dsimp only
  split
  · refine ⟨['0'], '.' :: (List.replicate (-d.point).toNat '0' ++ d.digits), by simp, rfl,
      isTail_point (isDigits_iff.mpr ⟨by simp [some_digit], ?_⟩)⟩
    exact List.forall_mem_append.mpr ⟨zeros _, digits⟩
  · rename_i above
    have place : d.point = d.digits.length + d.exponent := rfl
    rcases Nat.eq_zero_or_pos d.coefficient with zero | positive
    · -- The only digit stands right before the point.
      have written : d.digits = ['0'] := by
        rw [digits_eq, zero]
        rfl
      rw [written, plain zero] at place
      rw [written, place]
      exact ⟨['0'], ['.', '0'], rfl, rfl, rfl⟩
    · have lead := decimalDigits_head positive
      rw [← digits_eq] at lead
      split
      · refine ⟨d.digits ++ List.replicate (d.point.toNat - d.digits.length) '0', ['.', '0'], rfl,
          isWhole_iff.mpr ⟨isDigits_iff.mpr ⟨by simp [some_digit], ?_⟩, .inr ?_⟩, rfl⟩
        · exact List.forall_mem_append.mpr ⟨digits, zeros _⟩
        · obtain ⟨first, rest, written⟩ := List.exists_cons_of_ne_nil some_digit
          rw [written] at lead ⊢
          exact lead
      · rename_i inside
        have split : 0 < d.point.toNat ∧ d.point.toNat < d.digits.length := by omega
        refine ⟨d.digits.take d.point.toNat, '.' :: d.digits.drop d.point.toNat, rfl,
          isWhole_iff.mpr ⟨isDigits_iff.mpr ⟨?_, ?_⟩, .inr ?_⟩, isTail_point (isDigits_iff.mpr ⟨?_, ?_⟩)⟩
        · rw [← List.length_pos_iff, List.length_take]
          omega
        · exact fun c member => digits c (List.mem_of_mem_take member)
        · rwa [List.head?_take, if_neg (by omega)]
        · rw [← List.length_pos_iff, List.length_drop]
          omega
        · exact fun c member => digits c (List.mem_of_mem_drop member)

end Binary64.Decimal

namespace Binary64

theorem trimZeros_positive (fuel : Nat) {d : Decimal} (positive : 0 < d.coefficient) :
    0 < (trimZeros fuel d).coefficient := by
  induction fuel generalizing d with
  | zero => exact positive
  | succ fuel ih =>
    rw [trimZeros]
    split
    · rename_i zeros
      have less : 0 < d.coefficient / 10 := by omega
      exact ih less
    · exact positive

theorem significand_positive {x : Binary64} (other : x.isZero = false) : 0 < x.significand := by
  unfold isZero at other
  unfold significand
  split
  · rename_i subnormal
    simp only [subnormal, beq_self_eq_true, Bool.true_and, beq_eq_false_iff_ne] at other
    exact Nat.pos_of_ne_zero other
  · exact Nat.add_pos_left (Nat.pow_pos (by decide)) _

-- Zero does not read back as any other number.
theorem gridPoint?_positive {tie : Tie} {x : Binary64} {exponent : Int} {c : Nat}
    (other : x.isZero = false) (found : gridPoint? tie x exponent = some c) : 0 < c := by
  have large := significand_positive other
  have low_end : 0 < x.roundingInterval.1 := by
    unfold roundingInterval
    dsimp only
    split <;> omega
  have quarters : 0 < (x.commonUnits exponent).2 :=
    Nat.mul_pos (Nat.pow_pos (by decide)) (Nat.pow_pos (by decide))
  have above : 0 < x.roundingInterval.1 * (x.commonUnits exponent).2 := Nat.mul_pos low_end quarters
  unfold gridPoint? at found
  dsimp only at found
  generalize x.roundingInterval.2.1 * (x.commonUnits exponent).2 / (x.commonUnits exponent).1 = floor
    at found
  cases floor with
  | zero =>
    -- The grid point zero lies below the interval, so the one above it was taken.
    simp only [Nat.zero_mul, Nat.not_le.mpr above, Nat.not_lt_zero, decide_false, Bool.false_and,
      ite_self, Nat.zero_add] at found
    split at found
    · cases found
    · rename_i below _
      cases below
    · cases found
      exact Nat.one_pos
    · rename_i below _
      cases below
  | succ floor =>
    split at found
    · cases found
    · cases found
      exact Nat.succ_pos _
    · cases found
      exact Nat.succ_pos _
    · split at found
      · cases found
        exact Nat.succ_pos _
      · cases found
        exact Nat.succ_pos _

theorem shortest_plain (tie : Tie) {x : Binary64} (other : x.isZero = false) :
    (shortest tie x).coefficient = 0 → (shortest tie x).exponent = 0 := by
  unfold shortest
  dsimp only
  cases searched : (List.range 17).findSome? fun n =>
      (gridPoint? tie x (x.leadingPlace - (n + 1 : Nat))).map fun c =>
        (⟨c, x.leadingPlace - (n + 1 : Nat)⟩ : Decimal) with
  | none => exact fun _ => rfl
  | some found =>
    obtain ⟨n, _, grid⟩ := List.exists_of_findSome?_eq_some searched
    obtain ⟨c, point, rfl⟩ := Option.map_eq_some_iff.mp grid
    have positive := trimZeros_positive 20 (d := ⟨c, x.leadingPlace - (n + 1 : Nat)⟩)
      (gridPoint?_positive other point)
    exact fun zero => absurd zero (Nat.ne_of_gt positive)

theorem text_numeral {x : Binary64} (finite : x.isFinite = true) : isNumeral x.text = true := by
  have number : x.isNaN = false := by
    simp only [isFinite, bne_iff_ne] at finite
    simp [isNaN, finite]
  have magnitude : Magnitude (if x.isZero then ['0', '.', '0']
      else if -4 ≤ (shortest .toEven x).point ∧ (shortest .toEven x).point ≤ 16 then
        (shortest .toEven x).positional else (shortest .toEven x).scientific) := by
    cases zero : x.isZero with
    | true => exact ⟨['0'], ['.', '0'], rfl, rfl, rfl⟩
    | false =>
      simp only [Bool.false_eq_true, if_false]
      split
      · exact Decimal.positional_magnitude (shortest_plain .toEven zero)
      · exact Decimal.scientific_magnitude _
  have spelled := magnitude.numeral x.isNegative
  unfold text written
  rw [number, finite]
  exact spelled

end Binary64

-- Of the numbers that a value can have, those that a template can hold.
def Number.Finite : Number → Prop
  | .int _ => True
  | .float x => x.isFinite = true

theorem Number.text_numeral {n : Number} (finite : n.Finite) : isNumeral (numberText n) = true := by
  have digits (m : Nat) : Magnitude (decimalDigits m) :=
    ⟨decimalDigits m, [], (List.append_nil _).symm, decimalDigits_isWhole m, rfl⟩
  cases n with
  | float x => exact Binary64.text_numeral finite
  | int n =>
    cases n with
    | ofNat m =>
      have spelled : numberText (.int (Int.ofNat m)) = decimalDigits m := Nat.toList_repr
      rw [spelled]
      exact (digits m).numeral false
    | negSucc m =>
      have spelled : numberText (.int (Int.negSucc m)) = '-' :: decimalDigits (m + 1) := by
        change ("-" ++ (m + 1).repr).toList = _
        rw [String.toList_append, Nat.toList_repr]
        rfl
      rw [spelled]
      exact (digits (m + 1)).numeral true

end

end StackTemplate
