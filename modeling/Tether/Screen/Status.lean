import Tether.Screen.Style

/-! The status line: the name on the left, the message in the middle, the mode on the right. -/
namespace Tether.Screen

structure Status where
  name : List Char
  mode : List Char
  message : List Char

namespace Status

/-- The text for so many columns. Of an odd number of free columns the right side has one more. -/
def text (s : Status) (width : Nat) : List Char :=
  let left := ' ' :: s.name ++ [' ']
  let right := ' ' :: s.mode ++ [' ']
  let free := width - Unicode.width left - Unicode.width s.message - Unicode.width right
  left ++ List.replicate (free / 2) ' ' ++ s.message ++
    List.replicate (free - free / 2) ' ' ++ right

/-- The clusters up to the first one that does not fit, without those that never would. -/
def cut (width room : Nat) : List Cell → List Cell
  | [] => []
  | c :: cs =>
    if width < c.width then cut width room cs
    else if room < c.width then []
    else c :: cut width (room - c.width) cs

def row (s : Status) (width : Nat) : Row :=
  .draw width (cut width width (Span.cells ⟨s.text width, .onGround .white .darkGray⟩))

end Status

end Tether.Screen
