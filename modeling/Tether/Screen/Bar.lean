import Tether.Complete.Ranking
import Tether.Complete.Signature
import Tether.Screen.Style
import Tether.Screen.Window

/-! The line under the transcript: what is offered for the word, or the parameters of the call. -/
namespace Tether.Screen
open Complete

/-- The first clusters that fit into the room; those without width are left out. -/
def fit (room : Nat) : List Cell → List Cell
  | [] => []
  | c :: cs =>
    if c.width = 0 then fit room cs
    else if c.width ≤ room then c :: fit (room - c.width) cs
    else []

/-- What fits of each span into the room that those before it leave. -/
def fitSpans (room : Nat) : List Span → List Cell
  | [] => []
  | s :: ss =>
    let cs := fit room s.cells
    cs ++ fitSpans (room - columns cs) ss

theorem columns_fit_le (room : Nat) (cs : List Cell) : columns (fit room cs) ≤ room := by
  induction cs generalizing room with
  | nil => simp [fit, columns]
  | cons c cs ih =>
    have := ih (room - c.width)
    unfold fit
    split
    · exact ih room
    · split
      · simp only [columns]; omega
      · simp [columns]

theorem columns_fitSpans_le (room : Nat) (ss : List Span) : columns (fitSpans room ss) ≤ room := by
  induction ss generalizing room with
  | nil => simp [fitSpans, columns]
  | cons s ss ih =>
    have hs := columns_fit_le room s.cells
    have hr := ih (room - columns (fit room s.cells))
    simp only [fitSpans, columns_append]
    omega

def Row.ofSpans (width : Nat) (ss : List Span) : Row := .draw width (fitSpans width ss)

/-- Matches in a row, as far as they fit. With a budget, they take no more columns than that. -/
structure Bar where
  offers : List Match
  selected : Option Nat
  budget : Option Nat

namespace Bar

def gap : List Char := [' ', ' ']
def moreLeft : List Char := ['<', ' ']
def moreRight : List Char := [' ', '>']
def callMark : List Char := ['(', ')']

theorem width_gap : Unicode.width gap = gapWidth := by decide

theorem width_moreLeft : Unicode.width moreLeft = moreWidth := by decide

theorem width_moreRight : Unicode.width moreRight = moreWidth := by decide

def entryWidth (m : Match) : Nat :=
  Unicode.width m.name.toList + if m.candidate.callable then Unicode.width callMark else 0

/-- The characters of a name, those at the given offsets in one style and the others in another,
where `start` is the offset of the first one. -/
def nameSpans (hits : List Nat) (hit base : Style) (start : Nat) : List Char → List Span
  | [] => []
  | c :: cs =>
    ⟨[c], if hits.contains start then hit else base⟩ ::
      nameSpans hits hit base (start + c.utf8Size) cs

def entry (m : Match) (selected : Bool) : List Span :=
  let base : Style := if selected then .onGround .black .cyan else .ink .gray
  let hit : Style :=
    { base with fore := some (if selected then .black else .yellow), bold := true }
  nameSpans m.positions hit base 0 m.name.toList ++
    if m.candidate.callable then [⟨callMark, { base with dim := true }⟩] else []

def entries (selected : Option Nat) (i : Nat) : List Match → List Span
  | [] => []
  | [m] => entry m (selected = some i)
  | m :: ms => entry m (selected = some i) ++ Span.plain gap :: entries selected (i + 1) ms

def line (b : Bar) (width : Nat) : List Span :=
  if b.offers.isEmpty then []
  else
    let budget := (b.budget.map (min · width)).getD width
    let w := Window.choose (b.offers.map entryWidth) (b.selected.getD 0) budget
    let sign (text : List Char) : Span := ⟨text, .ink .darkGray⟩
    (if 0 < w.first then [sign moreLeft] else []) ++
      entries b.selected w.first ((b.offers.take (w.last + 1)).drop w.first) ++
      (if w.last < b.offers.length - 1 then [sign moreRight] else [])

end Bar

def paramSpans (active : Option Nat) (i : Nat) : List String → List Span
  | [] => []
  | p :: ps =>
    let here : Span :=
      ⟨p.toList, if active = some i then { fore := some .yellow, bold := true } else .ink .darkGray⟩
    (if 0 < i then [⟨[',', ' '], .ink .darkGray⟩, here] else [here]) ++ paramSpans active (i + 1) ps

def hint (s : Signature) (argument : Nat) : List Span :=
  let quiet (text : List Char) : Span := ⟨text, .ink .darkGray⟩
  quiet s.name.toList :: quiet ['('] :: paramSpans (s.active? argument) 0 s.params ++ [quiet [')']]

end Tether.Screen
