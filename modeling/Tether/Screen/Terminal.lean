import Tether.Screen.Typesetter
import Tether.Screen.Wrap

/-! The typesetter of the program: text is wrapped at words, with white space kept. -/
namespace Tether.Screen.Typesetter

def fill (width height : Nat) (rows : List (List Cell)) : List Row :=
  rows.map (.draw width) ++ List.replicate (height - rows.length) (.empty width)

def wrapped (width : Nat) (line : List Span) : List (List Cell) :=
  wrap width (line.flatMap Span.cells)

/-- An area without columns shows nothing. In a narrow one a row can be so much too long that a
cluster starts past its end, and then nothing can be drawn. -/
def area? (scroll width height : Nat) (lines : List (List Span)) : Option (List Row) :=
  let rows := if width = 0 then [] else ((lines.flatMap (wrapped width)).drop scroll).take height
  if rows.all (Row.holds width 0) then some (fill width height rows) else none

def terminal : Typesetter where
  width := Unicode.width
  clusters := Screen.clusters
  rows := wrapped
  draw? := area?

end Tether.Screen.Typesetter
