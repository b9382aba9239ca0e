import StackTemplate.Proofs.Json.Numeral

namespace StackTemplate.Json

inductive Mark where
  | openArray | closeArray | openObject | closeObject | colon | comma
  deriving DecidableEq, Repr

def Mark.char : Mark → Char
  | .openArray => '['
  | .closeArray => ']'
  | .openObject => '{'
  | .closeObject => '}'
  | .colon => ':'
  | .comma => ','

-- A string is a lexeme by what it holds, a number by its token.
inductive Lexeme where
  | mark (mark : Mark)
  | string (text : String)
  | number (token : List Char)
  | bool (value : Bool)
  | null
  deriving DecidableEq, Repr

def Lexeme.text : Lexeme → List Char
  | .mark m => [m.char]
  | .string text => quoted text
  | .number token => token
  | .bool b => boolText b
  | .null => ['n', 'u', 'l', 'l']

mutual

def lexemes : Json → List Lexeme
  | .string text => [.string text]
  | .number n => [.number (numberText n)]
  | .bool b => [.bool b]
  | .array [] => [.mark .openArray, .mark .closeArray]
  | .array (v :: vs) =>
    .mark .openArray :: (lexemes v ++ (itemLexemes vs ++ [.mark .closeArray]))
  | .object [] => [.mark .openObject, .mark .closeObject]
  | .object ((key, v) :: vs) =>
    .mark .openObject :: .string key :: .mark .colon ::
      (lexemes v ++ (memberLexemes vs ++ [.mark .closeObject]))

def itemLexemes : List Json → List Lexeme
  | [] => []
  | v :: vs => .mark .comma :: (lexemes v ++ itemLexemes vs)

def memberLexemes : List (String × Json) → List Lexeme
  | [] => []
  | (key, v) :: vs => .mark .comma :: .string key :: .mark .colon :: (lexemes v ++ memberLexemes vs)

end

mutual

def Finite : Json → Prop
  | .number n => n.Finite
  | .array vs => ItemsFinite vs
  | .object vs => MembersFinite vs
  | _ => True

def ItemsFinite : List Json → Prop
  | [] => True
  | v :: vs => v.Finite ∧ ItemsFinite vs

def MembersFinite : List (String × Json) → Prop
  | [] => True
  | (_, v) :: vs => v.Finite ∧ MembersFinite vs

end

def IsBlank (c : Char) : Prop := c = ' ' ∨ c = '\n'

-- What follows does not continue a number.
def Ends (text : List Char) : Prop := ∀ c, text.head? = some c → isNumeric c = false

-- The lexeme can stand before the text: a number is a token, and the token ends there.
def Lexeme.Stands (text : List Char) : Lexeme → Prop
  | .number token => isNumeral token = true ∧ Ends text
  | _ => True

-- The text is the lexemes in order with blanks between them.
inductive Laid : List Lexeme → List Char → Prop where
  | done : Laid [] []
  | blank {c : Char} {xs : List Lexeme} {text : List Char} (blank : IsBlank c) (rest : Laid xs text) :
      Laid xs (c :: text)
  | lexeme {x : Lexeme} {xs : List Lexeme} {text : List Char} (stands : x.Stands text)
      (rest : Laid xs text) : Laid (x :: xs) (x.text ++ text)

-- A piece of text that spells lexemes in front of whatever ends a number.
structure Spells (xs : List Lexeme) (piece : List Char) : Prop where
  laid : ∀ {ys : List Lexeme} {rest : List Char}, Laid ys rest → Ends rest →
    Laid (xs ++ ys) (piece ++ rest)

-- One that also ends a number in front of it.
structure Leads (xs : List Lexeme) (piece : List Char) : Prop extends Spells xs piece where
  ends : ∀ {rest : List Char}, Ends rest → Ends (piece ++ rest)

section
variable {xs ys : List Lexeme} {piece more : List Char}

theorem ends_cons {c : Char} (apart : isNumeric c = false) (text : List Char) : Ends (c :: text) := by
  intro first same
  cases same
  exact apart

theorem Mark.not_numeric (m : Mark) : isNumeric m.char = false := by cases m <;> decide

theorem IsBlank.not_numeric {c : Char} (blank : IsBlank c) : isNumeric c = false := by
  rcases blank with rfl | rfl <;> decide

theorem Leads.nil : Leads [] [] := ⟨⟨fun laid _ => laid⟩, id⟩

theorem Spells.whole (spells : Spells xs piece) : Laid xs piece := by
  have laid := spells.laid .done (fun _ first => nomatch first)
  rwa [List.append_nil, List.append_nil] at laid

theorem Spells.append (first : Spells xs piece) (second : Leads ys more) :
    Spells (xs ++ ys) (piece ++ more) := by
  refine ⟨fun {zs rest} laid ends => ?_⟩
  rw [List.append_assoc, List.append_assoc]
  exact first.laid (second.laid laid ends) (second.ends ends)

theorem Leads.append (first : Leads xs piece) (second : Leads ys more) :
    Leads (xs ++ ys) (piece ++ more) := by
  refine ⟨first.toSpells.append second, fun {rest} ends => ?_⟩
  rw [List.append_assoc]
  exact first.ends (second.ends ends)

theorem Leads.mark (m : Mark) (next : Spells xs piece) : Leads (.mark m :: xs) (m.char :: piece) where
  laid laid ends := .lexeme (x := .mark m) trivial (next.laid laid ends)
  ends _ := ends_cons m.not_numeric _

theorem Spells.string (text : String) (next : Leads xs piece) :
    Spells (.string text :: xs) (quoted text ++ piece) := by
  refine ⟨fun {zs rest} laid ends => ?_⟩
  rw [List.append_assoc]
  exact .lexeme (x := .string text) trivial (next.laid laid ends)

theorem Spells.blanks {blanks : List Char} (blank : ∀ c ∈ blanks, IsBlank c)
    (next : Spells xs piece) : Spells xs (blanks ++ piece) := by
  refine ⟨fun {zs rest} laid ends => ?_⟩
  induction blanks with
  | nil => exact next.laid laid ends
  | cons c blanks ih =>
    obtain ⟨first, others⟩ := List.forall_mem_cons.mp blank
    exact .blank first (ih others)

theorem Leads.blanks {blanks : List Char} (blank : ∀ c ∈ blanks, IsBlank c)
    (next : Leads xs piece) : Leads xs (blanks ++ piece) := by
  refine ⟨next.toSpells.blanks blank, fun {rest} ends => ?_⟩
  cases blanks with
  | nil => exact next.ends ends
  | cons c blanks => exact ends_cons (blank c List.mem_cons_self).not_numeric _

theorem Spells.space (next : Spells xs piece) : Spells xs (' ' :: piece) :=
  ⟨fun laid ends => .blank (.inl rfl) (next.laid laid ends)⟩

theorem Spells.single {x : Lexeme} (stands : ∀ rest, Ends rest → x.Stands rest) :
    Spells [x] x.text := ⟨fun laid ends => .lexeme (stands _ ends) laid⟩

theorem Spells.number {n : Number} (finite : n.Finite) :
    Spells [.number (numberText n)] (numberText n) :=
  .single (x := .number (numberText n)) fun _ ends => ⟨Number.text_numeral finite, ends⟩

theorem Leads.close (m : Mark) : Leads [.mark m] [m.char] := .mark m Leads.nil.toSpells

end

theorem newLine_blank (level : Nat) : ∀ c ∈ newLine level, IsBlank c := by
  intro c member
  rcases List.mem_cons.mp member with rfl | space
  · exact .inr rfl
  · exact .inl (List.eq_of_mem_replicate space)

mutual

theorem compact_spells : ∀ t : Json, t.Finite → Spells t.lexemes t.compact
  | .string text, _ => .single (x := .string text) fun _ _ => trivial
  | .number _, finite => .number finite
  | .bool b, _ => .single (x := .bool b) fun _ _ => trivial
  | .array [], _ => (Leads.mark .openArray (Leads.close .closeArray).toSpells).toSpells
  | .array (v :: vs), finite =>
    (Leads.mark .openArray ((compact_spells v finite.1).append
      ((compactItems_leads vs finite.2).append (.close .closeArray)))).toSpells
  | .object [], _ => (Leads.mark .openObject (Leads.close .closeObject).toSpells).toSpells
  | .object ((key, v) :: vs), finite =>
    (Leads.mark .openObject (.string key (.mark .colon ((compact_spells v finite.1).append
      ((compactMembers_leads vs finite.2).append (.close .closeObject)))))).toSpells

theorem compactItems_leads : ∀ vs : List Json, ItemsFinite vs →
    Leads (itemLexemes vs) (compactItems vs)
  | [], _ => .nil
  | v :: vs, finite => .mark .comma ((compact_spells v finite.1).append (compactItems_leads vs finite.2))

theorem compactMembers_leads : ∀ vs : List (String × Json), MembersFinite vs →
    Leads (memberLexemes vs) (compactMembers vs)
  | [], _ => .nil
  | (key, v) :: vs, finite =>
    .mark .comma (.string key (.mark .colon ((compact_spells v finite.1).append
      (compactMembers_leads vs finite.2))))

end

mutual

theorem pretty_spells (level : Nat) : ∀ t : Json, t.Finite → Spells t.lexemes (t.pretty level)
  | .string text, _ => .single (x := .string text) fun _ _ => trivial
  | .number _, finite => .number finite
  | .bool b, _ => .single (x := .bool b) fun _ _ => trivial
  | .array [], _ => (Leads.mark .openArray (Leads.close .closeArray).toSpells).toSpells
  | .array (v :: vs), finite =>
    (Leads.mark .openArray (.blanks (newLine_blank _) ((pretty_spells (level + 1) v finite.1).append
      ((prettyItems_leads (level + 1) vs finite.2).append
        (.blanks (newLine_blank _) (.close .closeArray)))))).toSpells
  | .object [], _ => (Leads.mark .openObject (Leads.close .closeObject).toSpells).toSpells
  | .object ((key, v) :: vs), finite =>
    (Leads.mark .openObject (.blanks (newLine_blank _) (.string key (.mark .colon
      (.space ((pretty_spells (level + 1) v finite.1).append
        ((prettyMembers_leads (level + 1) vs finite.2).append
          (.blanks (newLine_blank _) (.close .closeObject))))))))).toSpells

theorem prettyItems_leads (level : Nat) : ∀ vs : List Json, ItemsFinite vs →
    Leads (itemLexemes vs) (prettyItems level vs)
  | [], _ => .nil
  | v :: vs, finite =>
    .mark .comma (.blanks (newLine_blank _) ((pretty_spells level v finite.1).append
      (prettyItems_leads level vs finite.2)))

theorem prettyMembers_leads (level : Nat) : ∀ vs : List (String × Json), MembersFinite vs →
    Leads (memberLexemes vs) (prettyMembers level vs)
  | [], _ => .nil
  | (key, v) :: vs, finite =>
    .mark .comma (.blanks (newLine_blank _) (.string key (.mark .colon
      (.space ((pretty_spells level v finite.1).append
        (prettyMembers_leads level vs finite.2))))))

end

-- The text without the spaces and newlines that stand outside string literals.
def erase : (inside : Bool) → List Char → List Char
  | _, [] => []
  | false, '"' :: rest => '"' :: erase true rest
  | false, c :: rest => if c = ' ' ∨ c = '\n' then erase false rest else c :: erase false rest
  | true, '"' :: rest => '"' :: erase false rest
  | true, '\\' :: c :: rest => '\\' :: c :: erase true rest
  | true, c :: rest => c :: erase true rest

theorem erase_inside {c : Char} (plain : c ≠ '"' ∧ c ≠ '\\') (rest : List Char) :
    erase true (c :: rest) = c :: erase true rest := by
  rw [erase]
  · exact plain.1
  · intro _ _ same
    exact absurd same plain.2

theorem hexDigit_plain : ∀ n < 16, hexDigit n ≠ '"' ∧ hexDigit n ≠ '\\' := by decide

-- Inside a literal nothing is erased, and escapes keep it from ending early.
theorem erase_escape (c : Char) (rest : List Char) :
    erase true (escape c ++ rest) = escape c ++ erase true rest := by
  unfold escape
  split
  · rfl
  · rename_i quote
    split
    · rfl
    · rename_i backslash
      split
      · split
        · rfl
        · rfl
        · rfl
        · rfl
        · rfl
        · have high := hexDigit_plain (c.toNat / 16) (by omega)
          have low := hexDigit_plain (c.toNat % 16) (by omega)
          have zero : '0' ≠ '"' ∧ '0' ≠ '\\' := by decide
          change '\\' :: 'u' :: erase true ('0' :: '0' :: hexDigit (c.toNat / 16) ::
            hexDigit (c.toNat % 16) :: rest) = _
          rw [erase_inside zero, erase_inside zero, erase_inside high, erase_inside low]
          rfl
      · exact erase_inside ⟨quote, backslash⟩ rest

theorem erase_quoted (text : String) (rest : List Char) :
    erase false (quoted text ++ rest) = quoted text ++ erase false rest := by
  have literal (cs : List Char) : erase true (cs.flatMap escape ++ '"' :: rest) =
      cs.flatMap escape ++ '"' :: erase false rest := by
    induction cs with
    | nil => rfl
    | cons c cs ih => rw [List.flatMap_cons, List.append_assoc, erase_escape, ih, List.append_assoc]
  have whole := literal text.toList
  simp only [quoted, List.cons_append, List.append_assoc, List.nil_append]
  exact congrArg ('"' :: ·) whole

theorem erase_numeric {token : List Char} (numeric : ∀ c ∈ token, isNumeric c = true)
    (rest : List Char) : erase false (token ++ rest) = token ++ erase false rest := by
  induction token with
  | nil => rfl
  | cons c token ih =>
    obtain ⟨first, others⟩ := List.forall_mem_cons.mp numeric
    have apart : c ≠ '"' ∧ ¬ (c = ' ' ∨ c = '\n') := by
      refine ⟨?_, ?_⟩
      · rintro rfl
        cases first
      · rintro (rfl | rfl) <;> cases first
    rw [List.cons_append, erase, if_neg apart.2, ih others]
    · rfl
    · exact apart.1

theorem Laid.erase {xs : List Lexeme} {text : List Char} (laid : Laid xs text) :
    Json.erase false text = xs.flatMap Lexeme.text := by
  induction laid with
  | done => rfl
  | blank blank _ ih => rcases blank with rfl | rfl <;> exact ih
  | @lexeme x xs text stands _ ih =>
    have kept : Json.erase false (x.text ++ text) = x.text ++ Json.erase false text := by
      cases x with
      | mark m => cases m <;> rfl
      | string literal => exact erase_quoted literal text
      | number token => exact erase_numeric (isNumeric_of_numeral stands.1).2 text
      | bool b => cases b <;> rfl
      | null => rfl
    rw [kept, ih, List.flatMap_cons]

-- Checked along the list: a quantifier over characters can be decided over all characters there are.
theorem visible_of_all {text : List Char} (all : text.all (fun c => 0x20 ≤ c.toNat) = true) :
    ∀ c ∈ text, 0x20 ≤ c.toNat := by
  intro c member
  exact of_decide_eq_true (List.all_eq_true.mp all c member)

theorem isNumeric_visible {c : Char} (numeric : isNumeric c = true) : 0x20 ≤ c.toNat := by
  rw [isNumeric, Bool.or_eq_true, decide_eq_true_eq] at numeric
  rcases numeric with digit | sign
  · have zero : 0x20 ≤ '0'.toNat := by decide
    exact Nat.le_trans zero (Char.isDigit_iff_toNat.mp digit).1
  · have signs : ∀ s ∈ ['-', '+', '.', 'e', 'E'], 0x20 ≤ s.toNat := visible_of_all rfl
    exact signs c sign

theorem escape_visible (c : Char) : ∀ d ∈ escape c, 0x20 ≤ d.toNat := by
  unfold escape
  split
  · exact visible_of_all rfl
  · split
    · exact visible_of_all rfl
    · split
      · split
        iterate 5
          · exact visible_of_all rfl
        · have digits : ∀ n < 16, 0x20 ≤ (hexDigit n).toNat := by decide
          have high := digits (c.toNat / 16) (by omega)
          have low := digits (c.toNat % 16) (by omega)
          simp [high, low]
      · rename_i visible
        exact List.forall_mem_singleton.mpr (Nat.le_of_not_lt visible)

theorem Lexeme.text_visible {x : Lexeme} {rest : List Char} (stands : x.Stands rest) :
    ∀ c ∈ x.text, 0x20 ≤ c.toNat := by
  cases x with
  | mark m => cases m <;> exact visible_of_all rfl
  | string text =>
    have escaped : ∀ c ∈ text.toList.flatMap escape, 0x20 ≤ c.toNat :=
      List.forall_mem_flatMap.mpr fun c _ => escape_visible c
    have closing : ∀ c ∈ ['"'], 0x20 ≤ c.toNat := visible_of_all rfl
    exact List.forall_mem_cons.mpr ⟨closing '"' List.mem_cons_self,
      List.forall_mem_append.mpr ⟨escaped, closing⟩⟩
  | number token =>
    exact fun c member => isNumeric_visible ((isNumeric_of_numeral stands.1).2 c member)
  | bool b => cases b <;> exact visible_of_all rfl
  | null => exact visible_of_all rfl

theorem Laid.visible {xs : List Lexeme} {text : List Char} (laid : Laid xs text) :
    ∀ c ∈ xs.flatMap Lexeme.text, 0x20 ≤ c.toNat := by
  induction laid with
  | done => exact nofun
  | blank _ _ ih => exact ih
  | lexeme stands _ ih =>
    rw [List.flatMap_cons]
    exact List.forall_mem_append.mpr ⟨Lexeme.text_visible stands, ih⟩

mutual

theorem compact_eq : ∀ t : Json, t.compact = t.lexemes.flatMap Lexeme.text
  | .string _ => by simp [compact, lexemes, Lexeme.text]
  | .number _ => by simp [compact, lexemes, Lexeme.text]
  | .bool _ => by simp [compact, lexemes, Lexeme.text]
  | .array [] => rfl
  | .array (v :: vs) => by
    simp [compact, lexemes, Lexeme.text, Mark.char, compact_eq v, compactItems_eq vs]
  | .object [] => rfl
  | .object ((key, v) :: vs) => by
    simp [compact, lexemes, Lexeme.text, Mark.char, compact_eq v, compactMembers_eq vs]

theorem compactItems_eq : ∀ vs : List Json, compactItems vs = (itemLexemes vs).flatMap Lexeme.text
  | [] => rfl
  | v :: vs => by
    simp [compactItems, itemLexemes, Lexeme.text, Mark.char, compact_eq v, compactItems_eq vs]

theorem compactMembers_eq : ∀ vs : List (String × Json),
    compactMembers vs = (memberLexemes vs).flatMap Lexeme.text
  | [] => rfl
  | (key, v) :: vs => by
    simp [compactMembers, memberLexemes, Lexeme.text, Mark.char, compact_eq v, compactMembers_eq vs]

end

end StackTemplate.Json
