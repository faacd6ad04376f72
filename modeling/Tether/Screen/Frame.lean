import Tether.Screen.Bar
import Tether.Screen.Layout
import Tether.Screen.Pane
import Tether.Screen.Status
import Tether.Session.State

/-! The whole screen of a session. -/
namespace Tether
open Screen

namespace Screen

/-- How many cells after it a cell hides. After one with a selector they are drawn again. -/
def Cell.hides (c : Cell) : Nat :=
  if c.symbol.any fun d => Unicode.Form.ofChar? d = some .picture then 0 else c.width - 1

/-- A row as a terminal shows it: the cells that a wide one hides are blank. So many cells at its
start are hidden. -/
def coverRow : Nat → Row → Row
  | _, [] => []
  | n + 1, _ :: cs => .blank :: coverRow n cs
  | 0, c :: cs => c :: coverRow c.hides cs

def hiddenAfter : Nat → Row → Nat
  | n, [] => n
  | n + 1, _ :: cs => hiddenAfter n cs
  | 0, c :: cs => hiddenAfter c.hides cs

/-- Rows as a terminal shows them. A wide cell at the end of a row hides the start of the next. -/
def coverRows (hidden : Nat) : List Row → List Row
  | [] => []
  | r :: rs => coverRow hidden r :: coverRows (hiddenAfter hidden r) rs

end Screen

namespace Session

def pane (s : Session) : Pane := ⟨s.transcript, s.mode, s.input.value, s.input.cursor⟩

/-- The line above the status: the offers, or else the hint for the call. -/
def barLine (s : Session) (width : Nat) : List Span :=
  if s.offers.isEmpty then (s.call.map fun c => hint c.signature c.argument).getD []
  else Bar.line ⟨s.offers, s.tab.map TabCycle.selected, some s.width⟩ width

def status (s : Session) : Status where
  name := s.name.toList
  mode := s.mode.name.toList
  message := if s.browse.isSome then "command history".toList else []

/-- The rows of the screen. There is none if the screen has no row for what the bar shows. -/
def screen? (s : Session) (width height : Nat) : Option (List Row) := do
  let layout := Layout.of ⟨0, 0, width, height⟩
  let pane ← s.pane.draw? width layout.transcript.height
  let bar := fitSpans width (s.barLine width)
  if layout.bar.height = 0 && !bar.isEmpty then none
  let under := List.replicate layout.bar.height (.draw width bar) ++
    List.replicate layout.status.height (s.status.row width)
  some (coverRows 0 (pane ++ under))

end Session

end Tether
