/-! Powers of the two bases that numbers are written in, and the range of the integers. -/
namespace Tether.Number

def twoTo (n : Nat) : Nat := Nat.pow 2 n

def tenTo (n : Nat) : Nat := Nat.pow 10 n

/-- Whether an integer fits into 64 bits: from `-2 ^ 63` to below `2 ^ 63`. -/
def inRange (n : Int) : Bool := -0x8000000000000000 ≤ n && n < 0x8000000000000000

end Tether.Number
