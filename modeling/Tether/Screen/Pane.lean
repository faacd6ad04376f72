import Tether.Screen.Terminal
import Tether.Session.Transcript
import Tether.Text.Offset

/-! The transcript with the input line under it, which has the cursor as a block. The pane is
scrolled down by what the lines are taller than it, as far as their widths tell. -/
namespace Tether.Screen

def prompt : Mode → Span
  | .eval => ⟨"tether> ".toList, .ink .green⟩
  | .command => ⟨"tether: ".toList, .ink .yellow⟩

def outputStyle (e : TranscriptEntry) : Style :=
  if e.isError then .ink .red
  else if e.input.isNone then { fore := some .darkGray, italic := true }
  else .ink .white

def inputLine (mode : Mode) (text : String) : List Span := [prompt mode, .plain text.toList]

def outputLines (style : Style) (text : String) : List (List Span) :=
  (Text.lines text.toList).map fun l => [⟨' ' :: ' ' :: l, style⟩]

def entryLines (e : TranscriptEntry) : List (List Span) :=
  (e.input.map fun (mode, text) => inputLine mode text).toList ++
    (e.output.map (outputLines (outputStyle e))).getD []

def cursorStyle : Style := .onGround .black .white

/-- The input with the character after the cursor brought out, or a blank at the end. -/
def liveLine (mode : Mode) (before after : List Char) : List Span :=
  let start := prompt mode :: if before.isEmpty then [] else [.plain before]
  match after with
  | [] => start ++ [⟨[' '], cursorStyle⟩]
  | c :: cs => start ++ ⟨[c], cursorStyle⟩ :: if cs.isEmpty then [] else [.plain cs]

structure Pane where
  entries : List TranscriptEntry
  mode : Mode
  input : List Char
  cursor : Nat

namespace Pane

/-- All lines of the pane. A cursor past the end is at the end; there are none for a cursor inside
a character. -/
def lines? (p : Pane) : Option (List (List Span)) :=
  (Text.splitAt? p.input (min p.cursor (Text.bytes p.input))).map fun (before, after) =>
    p.entries.flatMap entryLines ++ [liveLine p.mode before after]

section
variable (t : Typesetter) (width height : Nat)

/-- The rows of a line as its width tells, however it is wrapped. -/
def rowCount (line : List Span) : Nat :=
  (max 1 (t.lineWidth line) + (max 1 width - 1)) / max 1 width

def rowCounts : List (List Span) → Nat
  | [] => 0
  | l :: ls => rowCount t width l + rowCounts ls

/-- The rows scrolled away, counted in sixteen bits. -/
def scroll (lines : List (List Span)) : Nat := rowCounts t width lines % 65536 - height

def drawWith? (p : Pane) : Option (List Row) :=
  p.lines?.bind fun lines => t.draw? (scroll t width height lines) width height lines

end

def draw? (p : Pane) (width height : Nat) : Option (List Row) := p.drawWith? .terminal width height

end Pane

end Tether.Screen
