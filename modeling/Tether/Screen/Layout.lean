/-! Where the parts of the screen are. From the bottom up, the status line and the line above it
have a row each, as long as there are any; the transcript has what is left. -/
namespace Tether.Screen

structure Rect where
  x : Nat
  y : Nat
  width : Nat
  height : Nat
  deriving DecidableEq, Repr

/-- A rectangle whose edges can be told in sixteen bits; what is past them is cut off. -/
def Rect.of (x y width height : Nat) : Rect :=
  ⟨x, y, min width (65535 - x), min height (65535 - y)⟩

structure Layout where
  transcript : Rect
  bar : Rect
  status : Rect
  deriving DecidableEq, Repr

/-- With a single row, that row is the bar. -/
def Layout.of (area : Rect) : Layout :=
  let bar := min 1 area.height
  let status := min 1 (area.height - bar)
  let transcript := area.height - bar - status
  { transcript := { area with height := transcript }
    bar := { area with y := area.y + transcript, height := bar }
    status := { area with y := area.y + transcript + bar, height := status } }

theorem Layout.height_of (area : Rect) :
    (Layout.of area).transcript.height + (Layout.of area).bar.height +
      (Layout.of area).status.height = area.height := by
  simp [Layout.of]; omega

end Tether.Screen
