namespace StackTemplate.EditDistance

-- The rest of the next row. `corner` and `above` are its neighbours in the old row, `left` is
-- the cell before it; a step keeps, replaces, deletes or inserts one character.
def extendRow (c : Char) : List Char → (corner : Nat) → (above : List Nat) → (left : Nat) → List Nat
  | d :: ds, corner, up :: above, left =>
    let cell := min (min (corner + if c = d then 0 else 1) (up + 1)) (left + 1)
    cell :: extendRow c ds up above cell
  | _, _, _, _ => []

def nextRow (second : List Char) (row : List Nat) (c : Char) : List Nat :=
  match row with
  | [] => []
  | corner :: above => (corner + 1) :: extendRow c second corner above (corner + 1)

def firstRow (second : List Char) : List Nat := List.range (second.length + 1)

def distance (first second : List Char) : Nat :=
  (first.foldl (nextRow second) (firstRow second)).getLastD 0

end StackTemplate.EditDistance
