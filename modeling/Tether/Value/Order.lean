import Tether.Eval.Error

/-! Equality and order of values. -/
namespace Tether.Value

mutual

/-- Equality of two values of one kind, part by part. -/
def same : Value → Value → Bool
  | int a, int b => a == b
  | float a, float b => a == b
  | str a, str b => a == b
  | bool a, bool b => a == b
  | list as, list bs => sameItems as bs
  | record fs, record gs => sameFields fs gs
  | func f, func g => f == g
  | _, _ => false

def sameItems : List Value → List Value → Bool
  | [], [] => true
  | a :: as, b :: bs => if same a b then sameItems as bs else false
  | _, _ => false

def sameFields : List (String × Value) → List (String × Value) → Bool
  | [], [] => true
  | (m, a) :: fs, (n, b) :: gs => if m == n && same a b then sameFields fs gs else false
  | _, _ => false

end

/-- Equality of values, where two numbers are compared as floating-point numbers. -/
def equal (a b : Value) : Bool :=
  match a.number?, b.number? with
  | some x, some y => x == y
  | _, _ => same a b

def compareFloat? (x y : Float) : Option Ordering :=
  if x < y then some .lt else if x == y then some .eq else if y < x then some .gt else none

def order (a b : Value) : Except EvalError Ordering :=
  match a, b with
  | str s, str t => .ok (compare s t)
  | int m, int n => .ok (compare m.toInt n.toInt)
  | _, _ =>
    match a.number?, b.number? with
    | some x, some y =>
      match compareFloat? x y with
      | some o => .ok o
      | none => .error (.type .unordered)
    | _, _ => .error (.type (.cannotCompare a.kind b.kind))

end Tether.Value
