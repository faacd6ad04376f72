/-! Scored search for the characters of a word, in order but with gaps, in a name. A match earns
more at the start of a word and right after another match; a gap costs. The best placement is found
row by row: a row has the best scores of a beginning of the word in each beginning of the name. -/
namespace Tether.Complete.Fuzzy

inductive CharClass where
  | start | hardSeparator | softSeparator | digit | capital | other
  deriving DecidableEq, Repr

def hardSeparators : List Char := [' ', '/', '\\', '|', '(', ')', '[', ']', '\x7b', '\x7d']

def classify (c : Char) : CharClass :=
  if c.toNat = 0 then .start
  else if hardSeparators.contains c then .hardSeparator
  else if '!' ≤ c && c ≤ '\'' || '*' ≤ c && c ≤ '.' || ':' ≤ c && c ≤ '@'
      || '^' ≤ c && c.toNat ≤ 0x60 || c = '~' then .softSeparator
  else if c.isDigit then .digit
  else if c.isUpper then .capital
  else .other

def placeBonus : CharClass → CharClass → Int
  | .start, _ | .hardSeparator, _ => 8
  | .softSeparator, _ => 7
  | .digit, .capital | .other, .capital => 6
  | _, _ => 0

def bonusesAfter (before : CharClass) : List Char → List (Char × Int)
  | [] => []
  | c :: cs => (c, placeBonus before (classify c)) :: bonusesAfter (classify c) cs

/-- The characters of a name with the bonuses of their places; that of the first counts twice. -/
def withBonuses (name : List Char) : List (Char × Int) :=
  match bonusesAfter .start name with
  | [] => []
  | (c, b) :: rest => (c, 2 * b) :: rest

/-- A word with an ASCII capital is looked for as it is, any other without regard to ASCII case. -/
def isSensitive (word : List Char) : Bool := word.any Char.isUpper

def equalChars (sensitive : Bool) (a b : Char) : Bool :=
  if sensitive then a = b else a.toLower = b.toLower

def leftmost? (sensitive : Bool) (n : Nat) : List Char → List Char → Option (List Nat)
  | [], _ => some []
  | _ :: _, [] => none
  | p :: ps, c :: cs =>
    if equalChars sensitive p c then (leftmost? sensitive (n + 1) ps cs).map (n :: ·)
    else leftmost? sensitive (n + 1) (p :: ps) cs

/-- The best scores up to a character of the name: when it is matched and when it is passed over,
and whether the character before it is matched in either case. -/
structure Cell where
  matched : Int
  afterMatch : Bool
  passed : Int
  passedAfterMatch : Bool

def Cell.none : Cell := ⟨-32768, false, -32768, false⟩

/-- Passing over characters costs nothing before the first match but once. -/
def Cell.begin : Cell := ⟨-32768, false, -1, false⟩

/-- The cell for the character `c` and the last character `p` of a beginning of the word, from the
cell to its left and the one for the shorter beginning of the word there. -/
def Cell.next (sensitive : Bool) (p c : Char) (bonus : Int) (left up : Cell) : Cell :=
  let near := up.matched + max bonus 4
  let far := up.passed + bonus
  let score : Int := if !sensitive && p != c then 14 else 16
  let (matched, afterMatch) :=
    if equalChars sensitive p c then (max near far + score, decide (far ≤ near))
    else (-32768, false)
  let opened := left.matched - 4
  let widened := left.passed - 1
  ⟨matched, afterMatch, max opened widened, decide (widened ≤ opened)⟩

def fill (sensitive : Bool) (p : Char) (skip : Nat) (left : Cell) :
    List (Char × Int) → List Cell → List Cell
  | (c, bonus) :: cs, up :: ups =>
    match skip with
    | n + 1 => Cell.none :: fill sensitive p n Cell.none cs ups
    | 0 =>
      let cell := Cell.next sensitive p c bonus left up
      cell :: fill sensitive p 0 cell cs ups
  | _, _ => []

def rows (sensitive : Bool) (name : List (Char × Int)) (above : List Cell) :
    List Char → List Nat → List (List Cell)
  | p :: ps, first :: firsts =>
    let row := Cell.none :: fill sensitive p first Cell.none name above
    rows sensitive name row ps firsts ++ [row]
  | _, _ => []

def best (row : List Cell) : Int × Nat :=
  row.zipIdx.foldl (fun (s, i) (cell, j) => if s ≤ cell.matched then (cell.matched, j) else (s, i))
    (-32768, 0)

/-- The matched places from the column `n` on back to the column `stop`, in the rows that are left.
`inMatch` says which score of a cell is followed, `hit` whether the character is matched. -/
def trace (stop : Nat) (inMatch hit : Bool) : Nat → List (Array Cell) → List Nat
  | 0, _ => []
  | _ + 1, [] => []
  | n + 1, row :: rest =>
    if n + 1 ≤ stop then []
    else
      let cell := row[n + 1]?.getD Cell.none
      let hit' := if inMatch then cell.afterMatch else cell.passedAfterMatch
      let below := trace stop hit' hit' n (if inMatch then rest else row :: rest)
      if hit then n :: below else below

/-- The score of a word in a name and the places of the matched characters, from the last on, if
the name has the characters of the word in order. -/
def search? (name word : List Char) : Option (Int × List Nat) := do
  let sensitive := isSensitive word
  let firsts ← leftmost? sensitive 0 word name
  let first ← firsts.head?
  let cells := withBonuses name
  let table := rows sensitive cells (List.replicate (name.length + 1) Cell.begin) word firsts
  let last ← table.head?
  let (score, column) := best last
  return (score, trace first true true column (table.map List.toArray))

end Tether.Complete.Fuzzy
