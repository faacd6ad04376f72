/-! Sets of code points as closed ranges, for the tables of the character properties. -/
namespace Tether.Unicode

structure Range where
  first : Nat
  last : Nat

/-- Every `step`-th code point from `first` to `last`. -/
structure Stride where
  first : Nat
  last : Nat
  step : Nat

/-- The points of a stride, the first going to `target` and the others keeping their distance. -/
structure Shift where
  source : Stride
  target : Nat

def Range.has (r : Range) (n : Nat) : Bool := r.first ≤ n && n ≤ r.last

def Stride.has (s : Stride) (n : Nat) : Bool :=
  s.first ≤ n && n ≤ s.last && (n - s.first) % s.step == 0

def member (rs : List Range) (c : Char) : Bool := rs.any (·.has c.toNat)

def memberStride (rs : List Stride) (c : Char) : Bool := rs.any (·.has c.toNat)

def shifted? (ss : List Shift) (c : Char) : Option Char :=
  (ss.find? (·.source.has c.toNat)).map fun s => Char.ofNat (s.target + (c.toNat - s.source.first))

end Tether.Unicode
