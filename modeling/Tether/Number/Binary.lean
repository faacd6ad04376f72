import Tether.Number.Power

/-! Finite floating-point numbers as exact binary fractions. -/
namespace Tether.Number

structure Binary where
  mantissa : Nat
  exponent : Int
  /-- The gap to the number below is half the gap to the number above. -/
  narrow : Bool

def isNegative (x : Float) : Bool := x.toBits >>> 63 == 1

def magnitude (x : Float) : Binary :=
  let e := ((x.toBits >>> 52) &&& 0x7FF).toNat
  let f := (x.toBits &&& 0xFFFFFFFFFFFFF).toNat
  if e = 0 then ⟨f, -1074, false⟩ else ⟨0x10000000000000 + f, (e : Int) - 1075, f = 0 && 1 < e⟩

def Binary.isWhole (b : Binary) : Bool := b.mantissa % twoTo (-b.exponent).toNat = 0

def Binary.whole (b : Binary) : Nat :=
  b.mantissa * twoTo b.exponent.toNat / twoTo (-b.exponent).toNat

/-- The number `mantissa * 2 ^ exponent`, for a mantissa below `2 ^ 53` and an exponent from
`-1074` on that make a number of the format; the bits are set directly, so nothing is rounded. -/
def ofParts (negative : Bool) (mantissa : Nat) (exponent : Int) : Float :=
  let sign : Nat := if negative then 0x8000000000000000 else 0
  if mantissa = 0 then Float.ofBits sign.toUInt64
  else
    let up := min (52 - mantissa.log2) (exponent + 1074).toNat
    let m := mantissa * twoTo up
    let e := exponent - up
    if m < 0x10000000000000 then Float.ofBits (sign + m).toUInt64
    else Float.ofBits (sign + (e + 1075).toNat * 0x10000000000000 + (m - 0x10000000000000)).toUInt64

/-- The remainder of a division whose quotient is cut toward zero; it is exact, and takes the sign
of the dividend. -/
def remainder (x y : Float) : Float :=
  if x.isNaN || y.isNaN || x.isInf || y == 0.0 then 0.0 / 0.0
  else if y.isInf then x
  else
    let a := magnitude x
    let b := magnitude y
    let q := min a.exponent b.exponent
    let n := a.mantissa * twoTo (a.exponent - q).toNat
    let d := b.mantissa * twoTo (b.exponent - q).toNat
    ofParts (isNegative x) (n % d) q

/-- The whole part of a number as a signed 64-bit integer: beyond the range its nearest end, and
zero for no number. -/
def toInt64 (x : Float) : Int64 :=
  if x.isNaN then 0
  else if x.isInf then (if isNegative x then Int64.minValue else Int64.maxValue)
  else
    let n : Int := (magnitude x).whole
    let n := if isNegative x then -n else n
    Int64.ofInt (max (-0x8000000000000000) (min 0x7FFFFFFFFFFFFFFF n))

end Tether.Number
