import StackTemplate.Proofs.Json.Lexeme
import StackTemplate.Toml.Text

namespace StackTemplate.Json
open Toml (Reader collect collectWithin)

-- A tree as it is read. A number is the token it was written with.
inductive Node where
  | null
  | bool (value : Bool)
  | number (token : List Char)
  | string (text : String)
  | array (items : List Node)
  | object (members : List (String × Node))

mutual

def node : Json → Node
  | .string text => .string text
  | .number n => .number (numberText n)
  | .bool b => .bool b
  | .array vs => .array (itemNodes vs)
  | .object vs => .object (memberNodes vs)

def itemNodes : List Json → List Node
  | [] => []
  | v :: vs => v.node :: itemNodes vs

def memberNodes : List (String × Json) → List (String × Node)
  | [] => []
  | (key, v) :: vs => (key, v.node) :: memberNodes vs

end

def codeUnit : Reader Nat
  | a :: b :: c :: d :: rest =>
    if [a, b, c, d].all Toml.isHexDigit then some (Toml.valueInBase 16 [a, b, c, d], rest) else none
  | _ => none

-- Two surrogates in a row are one character; a surrogate by itself is none.
def numbered : Reader Char := fun input => do
  let (first, rest) ← codeUnit input
  if first < 0xd800 ∨ 0xdfff < first then some (Char.ofNat first, rest)
  else match rest with
    | '\\' :: 'u' :: rest => do
      let (second, rest) ← codeUnit rest
      if first < 0xdc00 ∧ 0xdc00 ≤ second ∧ second ≤ 0xdfff then
        some (Char.ofNat (0x10000 + (first - 0xd800) * 0x400 + (second - 0xdc00)), rest)
      else none
    | _ => none

def unescape : Reader Char
  | '"' :: rest => some ('"', rest)
  | '\\' :: rest => some ('\\', rest)
  | '/' :: rest => some ('/', rest)
  | 'b' :: rest => some ('\x08', rest)
  | 'f' :: rest => some ('\x0c', rest)
  | 'n' :: rest => some ('\n', rest)
  | 'r' :: rest => some ('\r', rest)
  | 't' :: rest => some ('\t', rest)
  | 'u' :: rest => numbered rest
  | _ => none

-- One character of a string literal, or its end. Control characters have to be escaped.
def stringPiece : Reader (Option Char)
  | '"' :: rest => some (none, rest)
  | '\\' :: rest => (unescape rest).map fun (c, rest) => (some c, rest)
  | c :: rest => if c.toNat < 0x20 then none else some (some c, rest)
  | [] => none

def keyword : Reader Lexeme
  | 't' :: 'r' :: 'u' :: 'e' :: rest => some (.bool true, rest)
  | 'f' :: 'a' :: 'l' :: 's' :: 'e' :: rest => some (.bool false, rest)
  | 'n' :: 'u' :: 'l' :: 'l' :: rest => some (.null, rest)
  | _ => none

def Mark.ofChar? : Char → Option Mark
  | '[' => some .openArray
  | ']' => some .closeArray
  | '{' => some .openObject
  | '}' => some .closeObject
  | ':' => some .colon
  | ',' => some .comma
  | _ => none

-- A number goes as far as its characters do.
def lexeme : Reader Lexeme
  | [] => none
  | c :: rest =>
    if c = '"' then
      (collect stringPiece rest).map fun (cs, rest) => (.string (String.ofList cs), rest)
    else if isNumeric c then
      let token := (c :: rest).takeWhile isNumeric
      if isNumeral token then some (.number token, (c :: rest).dropWhile isNumeric) else none
    else match Mark.ofChar? c with
      | some m => some (.mark m, rest)
      | none => keyword (c :: rest)

def isWhite (c : Char) : Bool := c ∈ [' ', '\t', '\n', '\r']

def lexemePiece : Reader (Option Lexeme) := fun input =>
  match input.dropWhile isWhite with
  | [] => some (none, [])
  | c :: rest => (lexeme (c :: rest)).map fun (x, rest) => (some x, rest)

mutual

-- The tree that lexemes begin with. Each step takes a lexeme, so their number is fuel enough.
def tree : (fuel : Nat) → List Lexeme → Option (Node × List Lexeme)
  | 0, _ => none
  | _ + 1, .string text :: rest => some (.string text, rest)
  | _ + 1, .number token :: rest => some (.number token, rest)
  | _ + 1, .bool b :: rest => some (.bool b, rest)
  | _ + 1, .null :: rest => some (.null, rest)
  | fuel + 1, .mark .openArray :: rest =>
    if rest.head? = some (.mark .closeArray) then some (.array [], rest.tail)
    else do
      let (v, rest) ← tree fuel rest
      let (vs, rest) ← items fuel rest
      some (.array (v :: vs), rest)
  | fuel + 1, .mark .openObject :: rest =>
    if rest.head? = some (.mark .closeObject) then some (.object [], rest.tail)
    else do
      let (v, rest) ← member fuel rest
      let (vs, rest) ← members fuel rest
      some (.object (v :: vs), rest)
  | _ + 1, _ => none

def items : (fuel : Nat) → List Lexeme → Option (List Node × List Lexeme)
  | _ + 1, .mark .closeArray :: rest => some ([], rest)
  | fuel + 1, .mark .comma :: rest => do
    let (v, rest) ← tree fuel rest
    let (vs, rest) ← items fuel rest
    some (v :: vs, rest)
  | _, _ => none

def member : (fuel : Nat) → List Lexeme → Option ((String × Node) × List Lexeme)
  | fuel + 1, .string key :: .mark .colon :: rest => do
    let (v, rest) ← tree fuel rest
    some ((key, v), rest)
  | _, _ => none

def members : (fuel : Nat) → List Lexeme → Option (List (String × Node) × List Lexeme)
  | _ + 1, .mark .closeObject :: rest => some ([], rest)
  | fuel + 1, .mark .comma :: rest => do
    let (v, rest) ← member fuel rest
    let (vs, rest) ← members fuel rest
    some (v :: vs, rest)
  | _, _ => none

end

def read (text : List Char) : Option Node := do
  let (xs, _) ← collect lexemePiece text
  match tree xs.length xs with
  | some (node, []) => some node
  | _ => none

-- A loop reads what was written piece by piece, if the step reads each piece.
theorem collectWithin_pieces {α : Type} {step : Reader (Option α)} {write : α → List Char}
    (each : ∀ x rest, step (write x ++ rest) = some (some x, rest)) {tail rest : List Char}
    (ends : step tail = some (none, rest)) {xs : List α} : ∀ {fuel : Nat}, xs.length < fuel →
    collectWithin step fuel (xs.flatMap write ++ tail) = some (xs, rest) := by
  induction xs with
  | nil =>
    rintro (_ | fuel) enough
    · exact absurd enough (Nat.lt_irrefl 0)
    · rw [List.flatMap_nil, List.nil_append, collectWithin, ends]
      rfl
  | cons x xs ih =>
    rintro (_ | fuel) enough
    · exact absurd enough (Nat.not_lt_zero _)
    · have later := ih (Nat.lt_of_succ_lt_succ enough)
      rw [List.flatMap_cons, List.append_assoc, collectWithin, each]
      simp [later]

theorem codeUnit_control {n : Nat} (control : n < 0x20) (rest : List Char) :
    codeUnit ('0' :: '0' :: hexDigit (n / 16) :: hexDigit (n % 16) :: rest) = some (n, rest) := by
  have digits : ∀ n < 0x20,
      ['0', '0', hexDigit (n / 16), hexDigit (n % 16)].all Toml.isHexDigit = true ∧
        Toml.valueInBase 16 ['0', '0', hexDigit (n / 16), hexDigit (n % 16)] = n := by decide
  obtain ⟨hex, value⟩ := digits n control
  rw [codeUnit, if_pos hex, value]

theorem stringPiece_escape (c : Char) (rest : List Char) :
    stringPiece (escape c ++ rest) = some (some c, rest) := by
  have read {n : Nat} {d : Char} (code : c.toNat = n) (same : d = Char.ofNat n) : d = c := by
    rw [same, ← code, Char.ofNat_toNat]
  unfold escape
  split
  · rename_i same
    rw [same]
    rfl
  · rename_i quote
    split
    · rename_i same
      rw [same]
      rfl
    · rename_i backslash
      split
      · rename_i control
        split
        iterate 5
          · rename_i code
            rw [← read code rfl]
            rfl
        · change (numbered ('0' :: '0' :: hexDigit (c.toNat / 16) :: hexDigit (c.toNat % 16) :: rest)).map
            (fun (c, rest) => (some c, rest)) = some (some c, rest)
          have low : c.toNat < 0xd800 := by omega
          simp [numbered, codeUnit_control control, low]
      · rename_i visible
        rw [List.singleton_append, stringPiece, if_neg visible]
        · exact quote
        · exact backslash

theorem flatMap_escape_length (cs : List Char) : cs.length ≤ (cs.flatMap escape).length := by
  have some_char (c : Char) : 1 ≤ (escape c).length := by
    unfold escape
    split
    · decide
    · split
      · decide
      · split
        · split <;> exact Nat.succ_pos _
        · exact Nat.le_refl 1
  induction cs with
  | nil => exact Nat.le_refl 0
  | cons c cs ih =>
    have first := some_char c
    rw [List.flatMap_cons, List.length_append, List.length_cons]
    omega

theorem collect_quoted (text : String) (rest : List Char) :
    collect stringPiece (text.toList.flatMap escape ++ '"' :: rest) = some (text.toList, rest) := by
  have long := flatMap_escape_length text.toList
  refine collectWithin_pieces stringPiece_escape rfl ?_
  rw [List.length_append]
  omega

theorem lexeme_text {x : Lexeme} {rest : List Char} (stands : x.Stands rest) :
    lexeme (x.text ++ rest) = some (x, rest) := by
  cases x with
  | mark m => cases m <;> rfl
  | string text =>
    have body : (text.toList.flatMap escape ++ ['"']) ++ rest =
        text.toList.flatMap escape ++ '"' :: rest := by simp
    rw [Lexeme.text, quoted, List.cons_append, body, lexeme, if_pos rfl, collect_quoted]
    simp
  | number token =>
    obtain ⟨numeral, ends⟩ := stands
    obtain ⟨some_char, numeric⟩ := isNumeric_of_numeral numeral
    obtain ⟨run, after⟩ := run_split numeric ends
    cases token with
    | nil => exact absurd rfl some_char
    | cons c token =>
      have first := numeric c List.mem_cons_self
      have apart : c ≠ '"' := by
        rintro rfl
        cases first
      rw [List.cons_append] at run after
      rw [Lexeme.text, List.cons_append, lexeme, if_neg apart, if_pos first, run, after]
      exact if_pos numeral
  | bool b => cases b <;> rfl
  | null => rfl

-- No lexeme is empty or begins with something that is skipped.
theorem lexeme_begins {x : Lexeme} {rest : List Char} (stands : x.Stands rest) :
    ∃ c more, x.text = c :: more ∧ isWhite c = false := by
  cases x with
  | mark m => cases m <;> exact ⟨_, _, rfl, rfl⟩
  | string text => exact ⟨_, _, rfl, rfl⟩
  | number token =>
    obtain ⟨some_char, numeric⟩ := isNumeric_of_numeral stands.1
    cases token with
    | nil => exact absurd rfl some_char
    | cons c token =>
      refine ⟨c, token, rfl, ?_⟩
      have first := numeric c List.mem_cons_self
      refine decide_eq_false fun skipped => ?_
      simp only [List.mem_cons, List.not_mem_nil, or_false] at skipped
      rcases skipped with rfl | rfl | rfl | rfl <;> cases first
  | bool b => cases b <;> exact ⟨_, _, rfl, rfl⟩
  | null => exact ⟨_, _, rfl, rfl⟩

theorem Laid.length {xs : List Lexeme} {text : List Char} (laid : Laid xs text) :
    xs.length ≤ text.length := by
  induction laid with
  | done => exact Nat.le_refl 0
  | blank _ _ ih => exact Nat.le_succ_of_le ih
  | lexeme stands _ ih =>
    obtain ⟨c, more, spelled, _⟩ := lexeme_begins stands
    simp only [spelled, List.length_cons, List.length_append]
    omega

theorem lexemes_laid {xs : List Lexeme} {text : List Char} (laid : Laid xs text) : ∀ {fuel : Nat},
    xs.length < fuel → collectWithin lexemePiece fuel text = some (xs, []) := by
  induction laid with
  | done =>
    rintro (_ | fuel) enough
    · exact absurd enough (Nat.lt_irrefl 0)
    · rfl
  | @blank c xs text blank _ ih =>
    rintro (_ | fuel) enough
    · exact absurd enough (Nat.not_lt_zero _)
    · have skipped : lexemePiece (c :: text) = lexemePiece text := by
        rcases blank with rfl | rfl <;> rfl
      have same : collectWithin lexemePiece (fuel + 1) (c :: text) =
          collectWithin lexemePiece (fuel + 1) text := by
        rw [collectWithin, skipped, ← collectWithin]
      rw [same]
      exact ih enough
  | @lexeme x xs text stands _ ih =>
    rintro (_ | fuel) enough
    · exact absurd enough (Nat.not_lt_zero _)
    · have first : lexemePiece (x.text ++ text) = some (some x, text) := by
        obtain ⟨c, more, spelled, dark⟩ := lexeme_begins stands
        have whole := lexeme_text stands
        rw [spelled, List.cons_append] at whole ⊢
        rw [lexemePiece, List.dropWhile_cons_of_neg (by simp [dark])]
        dsimp only
        rw [whole]
        rfl
      have later := ih (Nat.lt_of_succ_lt_succ enough)
      rw [collectWithin, first]
      simp [later]

-- No tree begins with the end of another.
theorem lexemes_head (t : Json) : ∃ x xs, t.lexemes = x :: xs ∧ x ≠ .mark .closeArray := by
  cases t with
  | string text => exact ⟨_, _, rfl, nofun⟩
  | number n => exact ⟨_, _, rfl, nofun⟩
  | bool b => exact ⟨_, _, rfl, nofun⟩
  | array vs => cases vs <;> exact ⟨_, _, rfl, nofun⟩
  | object vs =>
    cases vs with
    | nil => exact ⟨_, _, rfl, nofun⟩
    | cons entry vs => exact ⟨_, _, rfl, nofun⟩

theorem array_lexemes (v : Json) (vs : List Json) (rest : List Lexeme) :
    (Json.array (v :: vs)).lexemes ++ rest =
      .mark .openArray :: (v.lexemes ++ (itemLexemes vs ++ .mark .closeArray :: rest)) := by
  simp [lexemes]

theorem object_lexemes (key : String) (v : Json) (vs : List (String × Json)) (rest : List Lexeme) :
    (Json.object ((key, v) :: vs)).lexemes ++ rest =
      .mark .openObject :: .string key :: .mark .colon ::
        (v.lexemes ++ (memberLexemes vs ++ .mark .closeObject :: rest)) := by
  simp [lexemes]

mutual

theorem tree_lexemes : ∀ (t : Json) (fuel : Nat) (rest : List Lexeme), t.lexemes.length ≤ fuel →
    tree fuel (t.lexemes ++ rest) = some (t.node, rest)
  | .string _, fuel + 1, rest, _ => rfl
  | .number _, fuel + 1, rest, _ => rfl
  | .bool _, fuel + 1, rest, _ => rfl
  | .array [], fuel + 1, rest, _ => rfl
  | .array (v :: vs), fuel + 1, rest, enough => by
    simp only [lexemes, List.length_cons, List.length_append, List.length_nil] at enough
    obtain ⟨x, xs, first, other⟩ := lexemes_head v
    have item := tree_lexemes v fuel (itemLexemes vs ++ .mark .closeArray :: rest) (by omega)
    have more := items_lexemes vs fuel rest (by omega)
    rw [array_lexemes, tree, item]
    simp [first, other, more, node, itemNodes]
  | .object [], fuel + 1, rest, _ => rfl
  | .object ((key, v) :: vs), fuel + 1, rest, enough => by
    simp only [lexemes, List.length_cons, List.length_append, List.length_nil] at enough
    have entry := member_lexemes key v fuel (memberLexemes vs ++ .mark .closeObject :: rest) (by omega)
    have more := members_lexemes vs fuel rest (by omega)
    rw [object_lexemes, tree, entry]
    simp [more, node, memberNodes]

theorem items_lexemes : ∀ (vs : List Json) (fuel : Nat) (rest : List Lexeme),
    (itemLexemes vs).length < fuel →
    items fuel (itemLexemes vs ++ .mark .closeArray :: rest) = some (itemNodes vs, rest)
  | [], fuel + 1, rest, _ => rfl
  | v :: vs, fuel + 1, rest, enough => by
    simp only [itemLexemes, List.length_cons, List.length_append] at enough
    have item := tree_lexemes v fuel (itemLexemes vs ++ .mark .closeArray :: rest) (by omega)
    have more := items_lexemes vs fuel rest (by omega)
    rw [itemLexemes, List.cons_append, List.append_assoc, items, item]
    simp [more, itemNodes]

theorem member_lexemes : ∀ (key : String) (v : Json) (fuel : Nat) (rest : List Lexeme),
    v.lexemes.length < fuel →
    member fuel (.string key :: .mark .colon :: (v.lexemes ++ rest)) = some ((key, v.node), rest)
  | key, v, fuel + 1, rest, enough => by
    rw [member, tree_lexemes v fuel rest (by omega)]
    rfl

theorem members_lexemes : ∀ (vs : List (String × Json)) (fuel : Nat) (rest : List Lexeme),
    (memberLexemes vs).length < fuel →
    members fuel (memberLexemes vs ++ .mark .closeObject :: rest) = some (memberNodes vs, rest)
  | [], fuel + 1, rest, _ => rfl
  | (key, v) :: vs, fuel + 1, rest, enough => by
    simp only [memberLexemes, List.length_cons, List.length_append] at enough
    have entry := member_lexemes key v fuel (memberLexemes vs ++ .mark .closeObject :: rest) (by omega)
    have more := members_lexemes vs fuel rest (by omega)
    rw [memberLexemes, List.cons_append, List.cons_append, List.cons_append, List.append_assoc, members,
      entry]
    simp [more, memberNodes]

end

theorem read_laid {t : Json} {text : List Char} (laid : Laid t.lexemes text) :
    read text = some t.node := by
  have short := laid.length
  have taken : collect lexemePiece text = some (t.lexemes, []) :=
    lexemes_laid laid (Nat.lt_succ_of_le short)
  have whole := tree_lexemes t t.lexemes.length [] (Nat.le_refl _)
  rw [List.append_nil] at whole
  rw [read, taken]
  simp [whole]

end StackTemplate.Json
