import Tether.Expr.Basic
import Tether.Text.Split

/-! The word at the cursor and the dotted chain of names before it. -/
namespace Tether.Complete
open Text

def boundaryMarks : List Char :=
  ['.', '(', ')', '[', ']', '\x7b', '\x7d', '+', '*', '/', '%', '=', '<', '>', '!', '&', '|', ',',
    '?', ':', ';']

/-- Whether a character separates words; a hyphen does not. -/
def isBoundary (c : Char) : Bool := Unicode.isWhite c || boundaryMarks.contains c

structure Word where
  text : List Char
  start : Nat
  stop : Nat

def Word.empty : Word := ⟨[], 0, 0⟩

/-- The word the cursor is in, with no boundary inside and as long as can be. -/
def wordAt (cs : List Char) (cursor : Nat) : Word :=
  let (before, after) := splitFloor cs cursor
  let head := takeEnd (!isBoundary ·) before
  let tail := after.takeWhile (!isBoundary ·)
  ⟨head ++ tail, bytes before - bytes head, bytes before + bytes tail⟩

def isChainChar (c : Char) : Bool := c = '.' || isNameChar c

/-- The dotted chain of names right before a position, without the dots at its ends. -/
def parentPath (cs : List Char) (at_ : Nat) : List Char :=
  (takeEnd isChainChar (dropEnd (· = '.') (splitFloor cs at_).1)).dropWhile (· = '.')

end Tether.Complete
