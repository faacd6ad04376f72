import Tether.Screen.Style

/-! How lines of text come on the screen, as far as a pane leaves that to others. -/
namespace Tether.Screen

structure Typesetter where
  /-- The columns of a text. -/
  width : List Char → Nat
  /-- The parts of a text that stand in places of their own. -/
  clusters : List Char → List (List Char)
  /-- The rows of a line in so many columns. -/
  rows : Nat → List Span → List (List Cell)
  /-- Lines in an area, given the rows scrolled away, its width and its height; nothing if they
  cannot be drawn. -/
  draw? : Nat → Nat → Nat → List (List Span) → Option (List Row)

namespace Typesetter

def lineWidth (t : Typesetter) : List Span → Nat
  | [] => 0
  | s :: ss => t.width s.text + t.lineWidth ss

def cells (t : Typesetter) (line : List Span) : List Cell :=
  line.flatMap fun s => (t.clusters s.text).map (⟨·, s.style⟩)

def laidOut (t : Typesetter) (width : Nat) (lines : List (List Span)) : List (List Cell) :=
  lines.flatMap (t.rows width)

/-- The rows behind those that are scrolled away, as many as an area has. -/
def visible (t : Typesetter) (scroll width height : Nat) (lines : List (List Span)) :
    List (List Cell) :=
  ((t.laidOut width lines).drop scroll).take height

/-- What a pane takes for granted in an area that has columns. -/
structure Lawful (t : Typesetter) : Prop where
  blank : t.clusters [' '] = [[' ']]
  width_blank : 0 < t.width [' ']
  /-- Clusters are laid out in their order, but some may be lost. -/
  ordered {width : Nat} (hw : 0 < width) (line : List Span) :
    (t.rows width line).flatten.Sublist (t.cells line)
  /-- Only what is laid out as nothing has an empty row. -/
  filled {width : Nat} (hw : 0 < width) {line : List Span} (h : [] ∈ t.rows width line) :
    t.rows width line = [[]]
  /-- Scrolling skips rows: nothing but the rows behind them is seen. -/
  skipped {scroll width height : Nat} (hw : 0 < width) {lines : List (List Span)}
    {area : List Row} (h : t.draw? scroll width height lines = some area) {r : Row} (hr : r ∈ area)
    {c : Cell} (hc : c ∈ r) (hs : c.style ≠ .plain) :
    ∃ row ∈ t.visible scroll width height lines, c ∈ row
  /-- All that has a width on those rows is seen. -/
  seen {scroll width height : Nat} (hw : 0 < width) {lines : List (List Span)}
    {area : List Row} (h : t.draw? scroll width height lines = some area) {row : List Cell}
    (hr : row ∈ t.visible scroll width height lines) {c : Cell} (hc : c ∈ row)
    (hs : 0 < t.width c.symbol) : ∃ r ∈ area, c ∈ r

end Typesetter

end Tether.Screen
