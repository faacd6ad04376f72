import Tether.Expr.Basic
import Tether.Complete.Word

/-! The call whose arguments the cursor is in. -/
namespace Tether.Complete
open Text

/-- The name of a call that is not closed, the number of the argument at the cursor, and the
position of its opening parenthesis. -/
structure CallSite where
  name : List Char
  argument : Nat
  opening : Nat

/-- Looks back, over the characters before the cursor from the last on, for a parenthesis that
is not closed: what stands before it, from the last character on, and what follows it. -/
def unclosed? (closed : Nat) (after : List Char) : List Char → Option (List Char × List Char)
  | [] => none
  | c :: cs =>
    if c = ')' then unclosed? (closed + 1) (c :: after) cs
    else if c = '(' then
      match closed with
      | 0 => some (cs, after)
      | n + 1 => unclosed? n (c :: after) cs
    else unclosed? closed (c :: after) cs

def outerCommas (nesting : Nat) : List Char → Nat
  | [] => 0
  | c :: cs =>
    if c = '(' || c = '[' || c = '\x7b' then outerCommas (nesting + 1) cs
    else if c = ')' || c = ']' || c = '\x7d' then outerCommas (nesting - 1) cs
    else (if c = ',' && nesting = 0 then 1 else 0) + outerCommas nesting cs

/-- The innermost call that is open at the cursor; a parenthesis with no name before it is none. -/
def callAt? (cs : List Char) (cursor : Nat) : Option CallSite :=
  match unclosed? 0 [] (splitFloor cs cursor).1.reverse with
  | none => none
  | some (before, after) =>
    let name := (before.takeWhile isChainChar).reverse
    if name.isEmpty then none else some ⟨name, outerCommas 0 after, bytes before⟩

end Tether.Complete
