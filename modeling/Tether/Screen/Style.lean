import Tether.Text.Offset
import Tether.Unicode.Grapheme
import Tether.Unicode.Width

/-! Text with colours, and the rows of cells it is drawn in. -/
namespace Tether.Screen

inductive Color where
  | black | red | green | yellow | cyan | gray | darkGray | white
  deriving DecidableEq, Repr

structure Style where
  fore : Option Color := none
  back : Option Color := none
  bold : Bool := false
  dim : Bool := false
  italic : Bool := false
  deriving DecidableEq, Repr

namespace Style

def plain : Style := {}

def ink (c : Color) : Style := { fore := some c }

def onGround (fore back : Color) : Style := { fore := some fore, back := some back }

end Style

structure Span where
  text : List Char
  style : Style
  deriving DecidableEq, Repr

def Span.plain (text : List Char) : Span := ⟨text, .plain⟩

/-- A grapheme cluster with its style, and so the content of one place on the screen. -/
structure Cell where
  symbol : List Char
  style : Style
  deriving DecidableEq, Repr

namespace Cell

def blank : Cell := ⟨[' '], .plain⟩

/-- A voicing mark takes one column more on the screen than in the measure of a text. -/
def width (c : Cell) : Nat := Unicode.width c.symbol + c.symbol.countP Unicode.isVoicingMark

/-- The places that a cluster takes: it stands in the first, and the others stay blank. -/
def places (c : Cell) : List Cell :=
  if c.width = 0 then [] else c :: List.replicate (c.width - 1) blank

theorem length_places (c : Cell) : c.places.length = c.width := by
  unfold places; split <;> simp <;> omega

end Cell

/-- The clusters of a text; those with a control character are left out. -/
def clusters (text : List Char) : List (List Char) :=
  (Unicode.clusters text).filter fun g => !g.any Unicode.isControl

def Span.cells (s : Span) : List Cell := (clusters s.text).map (⟨·, s.style⟩)

def columns : List Cell → Nat
  | [] => 0
  | c :: cs => c.width + columns cs

theorem columns_append (a b : List Cell) : columns (a ++ b) = columns a + columns b := by
  induction a with
  | nil => simp [columns]
  | cons c a ih => simp [columns, ih, Nat.add_assoc]

abbrev Row := List Cell

namespace Row

def empty (width : Nat) : Row := List.replicate width .blank

/-- A row with clusters from its left end on; what reaches past the right end is cut off. -/
def draw (width : Nat) (cs : List Cell) : Row :=
  (cs.flatMap Cell.places ++ empty width).take width

theorem length_draw (width : Nat) (cs : List Cell) : (draw width cs).length = width := by
  simp [draw, empty]

/-- Whether all clusters that show start on the row, where `x` is the place of the first one. -/
def holds (width x : Nat) : List Cell → Bool
  | [] => true
  | c :: cs => (c.width = 0 || x < width) && holds width (x + c.width) cs

def text (r : Row) : List Char := Text.dropEnd (· = ' ') (r.flatMap Cell.symbol)

structure Run where
  start : Nat
  stop : Nat
  style : Style
  deriving DecidableEq, Repr

/-- The longest runs of cells of one style that is not plain. The first cell has number `x`. -/
def runs (x : Nat) : Row → List Run
  | [] => []
  | c :: cs =>
    let rest := runs (x + 1) cs
    if c.style = .plain then rest
    else match rest with
      | r :: rs =>
        if r.start = x + 1 && r.style = c.style then { r with start := x } :: rs
        else ⟨x, x + 1, c.style⟩ :: r :: rs
      | [] => [⟨x, x + 1, c.style⟩]

end Row

end Tether.Screen
