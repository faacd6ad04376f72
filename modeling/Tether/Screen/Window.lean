/-! The part of a list of entries that is shown on one line: it has the selected entry, starts as
early as that allows, and goes on for as long as there is room. Columns are counted in sixty-four
bits, and a count that needs more goes around. -/
namespace Tether.Screen

structure Window where
  first : Nat
  last : Nat
  deriving DecidableEq, Repr

def gapWidth : Nat := 2

def moreWidth : Nat := 2

def spanWidth : List Nat → Nat
  | [] => 0
  | [w] => w
  | w :: ws => w + gapWidth + spanWidth ws

/-- What is too much for sixty-four bits: `2 ^ 64`. -/
def countLimit : Nat := 0x10000000000000000

/-- A number of columns as it is counted. -/
def counted (n : Nat) : Nat := n % countLimit

namespace Window

def fitsFrom (widths : List Nat) (selected last budget s : Nat) : Bool :=
  counted (spanWidth ((widths.take (selected + 1)).drop s) + (if 0 < s then moreWidth else 0) +
    (if selected < last then moreWidth else 0)) ≤ budget

/-- The earliest start from which the selected entry still fits, or that entry itself. -/
def start (widths : List Nat) (selected last budget : Nat) : Nat :=
  ((List.range (selected + 1)).find? (fitsFrom widths selected last budget)).getD selected

/-- The last entry that fits after `used` columns, where `i` is the number of the next entry and
`gap` stands before it, and `reached` is the last one so far. -/
def extend (room last used gap i reached : Nat) : List Nat → Nat
  | [] => reached
  | w :: ws =>
    let used := used + (w + gap)
    if counted (used + (if i < last then moreWidth else 0)) ≤ room then
      extend room last used gapWidth (i + 1) i ws
    else reached

def choose (widths : List Nat) (selected budget : Nat) : Window :=
  let last := widths.length - 1
  if counted (spanWidth widths) ≤ budget then ⟨0, last⟩
  else
    let s := start widths (min selected last) last budget
    let room := budget - (if 0 < s then moreWidth else 0)
    ⟨s, extend room last 0 0 s s (widths.drop s)⟩

end Window

end Tether.Screen
