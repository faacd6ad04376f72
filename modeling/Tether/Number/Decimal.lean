import Tether.Number.Binary
import Tether.Text.Offset

/-! Decimal text of numbers: the fewest digits that read back, and all digits of whole numbers.
No exponent is ever written. -/
namespace Tether.Number

def digits (n : Nat) : List Char := Nat.toDigits 10 n

structure Decimal where
  coefficient : Nat
  exponent : Int

/-- Compares `a * 10 ^ i` with `n * 2 ^ j`. -/
def compareScaled (a : Nat) (i : Int) (n : Nat) (j : Int) : Ordering :=
  compare (a * tenTo i.toNat * twoTo (-j).toNat) (n * twoTo j.toNat * tenTo (-i).toNat)

/-- Whether a decimal lies among the reals that round to the number: the ends, halfway to the
neighbours, belong to it when the mantissa is even. -/
def Binary.readsBack (b : Binary) (d : Decimal) : Bool :=
  let low := if b.narrow then 4 * b.mantissa - 1 else 4 * b.mantissa - 2
  let even := b.mantissa % 2 = 0
  let atLow := compareScaled d.coefficient d.exponent low (b.exponent - 2)
  let atHigh := compareScaled d.coefficient d.exponent (4 * b.mantissa + 2) (b.exponent - 2)
  (atLow == .gt || even && atLow == .eq) && (atHigh == .lt || even && atHigh == .eq)

/-- The least `k` such that the number is below `10 ^ k`, for a number that is not zero. -/
def Binary.scale (b : Binary) : Int :=
  let num := b.mantissa * twoTo b.exponent.toNat
  let den := twoTo (-b.exponent).toNat
  if den ≤ num then (digits (num / den)).length
  else
    let j := (digits (den / num)).length
    if den ≤ num * tenTo (j - 1) then 2 - (j : Int) else 1 - (j : Int)

/-- The neighbour of the number on the grid of multiples of `10 ^ g` that reads back: the closer
one, and the upper one of two that are equally close. -/
def Binary.onGrid? (b : Binary) (g : Int) : Option Decimal :=
  let num := b.mantissa * twoTo b.exponent.toNat * tenTo (-g).toNat
  let den := twoTo (-b.exponent).toNat * tenTo g.toNat
  let low : Decimal := ⟨num / den, g⟩
  let high : Decimal := ⟨num / den + 1, g⟩
  match b.readsBack low, b.readsBack high with
  | true, true => some (if 2 * (num % den) < den then low else high)
  | true, false => some low
  | false, true => some high
  | false, false => none

/-- The decimal with the fewest digits that reads back; seventeen digits always do. -/
def Binary.shortest (b : Binary) : Decimal :=
  if b.mantissa = 0 then ⟨0, 0⟩
  else
    let k := b.scale
    match (List.range 17).findSome? fun (n : Nat) => b.onGrid? (k - 1 - n) with
    | some d => d
    | none =>
      ⟨b.mantissa * twoTo b.exponent.toNat * Nat.pow 5 (-b.exponent).toNat, -(-b.exponent).toNat⟩

def Decimal.text (d : Decimal) : List Char :=
  if 0 ≤ d.exponent then digits (d.coefficient * tenTo d.exponent.toNat)
  else
    let places := (-d.exponent).toNat
    let all := digits d.coefficient
    let all := List.replicate (places + 1 - all.length) '0' ++ all
    let fraction := Text.dropEnd (· = '0') (all.drop (all.length - places))
    let whole := all.take (all.length - places)
    if fraction.isEmpty then whole else whole ++ '.' :: fraction

def signed (negative : Bool) (cs : List Char) : List Char := if negative then '-' :: cs else cs

/-- The shortest text of a number; whole numbers have no point. -/
def plainText (x : Float) : List Char :=
  if x.isNaN then ['N', 'a', 'N']
  else signed (isNegative x)
    (if x.isInf then ['i', 'n', 'f'] else (magnitude x).shortest.text)

/-- The text of a number that shows it is no integer: whole numbers have all their digits and
`.0`, others the shortest text. -/
def floatText (x : Float) : List Char :=
  if x.isNaN || x.isInf then plainText x
  else
    let b := magnitude x
    if b.isWhole then signed (isNegative x) (digits b.whole ++ ['.', '0']) else plainText x

def intText (n : Int) : List Char := signed (n < 0) (digits n.natAbs)

end Tether.Number
