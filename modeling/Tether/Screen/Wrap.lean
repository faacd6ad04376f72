import Tether.Screen.Style
import Tether.Unicode.Letter

/-! Lines broken into rows. A row ends before the word that does not fit; a word longer than a row
is cut. White space stays, but for what falls on the end of a row. -/
namespace Tether.Screen

def Cell.isSpace (c : Cell) : Bool :=
  c.symbol = ['\u200B'] || (c.symbol.all Unicode.isWhite && c.symbol != ['\u00A0'])

/-- A row being filled: what is sure to stand on it, the white space after that, and the word after
that, of which more may come. -/
structure Wrap where
  line : List Cell
  space : List Cell
  word : List Cell
  inWord : Bool

namespace Wrap

def empty : Wrap := ⟨[], [], [], false⟩

def used (w : Wrap) : Nat := columns w.line + columns w.space + columns w.word

def settle (w : Wrap) : Wrap :=
  { w with line := w.line ++ w.space ++ w.word, space := [], word := [] }

def push (w : Wrap) (c : Cell) : Wrap :=
  if c.isSpace then { w with space := w.space ++ [c], inWord := false }
  else { w with word := w.word ++ [c], inWord := true }

/-- The white space that is left when its start fills up the room. -/
def dropFitting (room : Nat) : List Cell → List Cell
  | [] => []
  | c :: cs => if c.width ≤ room then dropFitting (room - c.width) cs else c :: cs

/-- Whether the word is part of the row before the next cluster comes: it ends there, or it stands
first and has no room for the cluster. -/
def mustSettle (limit : Nat) (w : Wrap) (c : Cell) : Bool :=
  (w.inWord && c.isSpace) || (w.line.isEmpty && limit < columns w.word + columns w.space + c.width)

def isFull (limit : Nat) (w : Wrap) (c : Cell) : Bool :=
  limit ≤ columns w.line || (0 < c.width && limit ≤ w.used)

/-- Takes the next cluster, and gives the row that it ends, if any. -/
def step (limit : Nat) (w : Wrap) (c : Cell) : Option (List Cell) × Wrap :=
  if limit < c.width then (none, w)
  else
    let w := if w.mustSettle limit c then w.settle else w
    if w.isFull limit c then
      let next := { w with line := [], space := dropFitting (limit - columns w.line) w.space }
      (some w.line, if c.isSpace && next.space.isEmpty then next else next.push c)
    else (none, w.push c)

def rowsFrom (limit : Nat) (w : Wrap) : List Cell → List (List Cell)
  | [] => if w.settle.line.isEmpty then [] else [w.settle.line]
  | c :: cs =>
    match w.step limit c with
    | (some row, w) => row :: rowsFrom limit w cs
    | (none, w) => rowsFrom limit w cs

end Wrap

/-- The rows of a line in so many columns, at least one. -/
def wrap (limit : Nat) (line : List Cell) : List (List Cell) :=
  match Wrap.rowsFrom limit .empty line with
  | [] => [[]]
  | rows => rows

end Tether.Screen
