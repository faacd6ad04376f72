import Tether.Expr.Basic
import Tether.Value.Order

/-! The operators on values. An integer result that leaves the 64-bit range is an error. -/
namespace Tether.Value

def ofInt (n : Int) : Result Value :=
  if Number.inRange n then .ok (int (Int64.ofInt n)) else .error (.type .overflow)

def toBool : Value → Result Bool
  | bool b => .ok b
  | v => .error (.type (.notBool v.kind))

def neg : Value → Result Value
  | int n => ofInt (-n.toInt)
  | float x => .ok (float (-x))
  | v => .error (.type (.unary .neg v.kind))

def not : Value → Result Value
  | bool b => .ok (bool !b)
  | v => .error (.type (.unary .not v.kind))

/-- Integer arithmetic. The remainder of a division whose quotient is out of range is an error as
the quotient is. -/
def intArith : BinaryOp → Int → Int → Result Value
  | .add, a, b => ofInt (a + b)
  | .sub, a, b => ofInt (a - b)
  | .mul, a, b => ofInt (a * b)
  | .div, a, b => if b = 0 then .error .divisionByZero else ofInt (a.tdiv b)
  | .rem, a, b =>
    if b = 0 then .error .divisionByZero
    else do
      let _ ← ofInt (a.tdiv b)
      ofInt (a.tmod b)
  | op, _, _ => .error (.type (.binary op .int .int))

def floatArith : BinaryOp → Float → Float → Result Value
  | .add, x, y => .ok (float (x + y))
  | .sub, x, y => .ok (float (x - y))
  | .mul, x, y => .ok (float (x * y))
  | .div, x, y => if y == 0.0 then .error .divisionByZero else .ok (float (x / y))
  | .rem, x, y => if y == 0.0 then .error .divisionByZero else .ok (float (Number.remainder x y))
  | op, _, _ => .error (.type (.binary op .float .float))

/-- Arithmetic on two values; `+` also joins strings and lists. -/
def arith (op : BinaryOp) (a b : Value) : Result Value :=
  match op, a, b with
  | op, int m, int n => intArith op m.toInt n.toInt
  | .add, str s, str t => .ok (str (s ++ t))
  | .add, list xs, list ys => .ok (list (xs ++ ys))
  | op, a, b =>
    match a.number?, b.number? with
    | some x, some y => floatArith op x y
    | _, _ => .error (.type (.binary op a.kind b.kind))

def binary (op : BinaryOp) (a b : Value) : Result Value :=
  match op with
  | .eq => .ok (bool (equal a b))
  | .ne => .ok (bool !equal a b)
  | .lt => return bool ((← order a b) == .lt)
  | .le => return bool ((← order a b) != .gt)
  | .gt => return bool ((← order a b) == .gt)
  | .ge => return bool ((← order a b) != .lt)
  | op => arith op a b

def field (v : Value) (name : String) : Result Value :=
  match v with
  | record fs =>
    match fs.find? (·.1 == name) with
    | some (_, w) => .ok w
    | none => .error (.unknownName name)
  | v => .error (.type (.noFields name v.kind))

/-- An item of a list, counted from 0, or a field of a record. -/
def index (target i : Value) : Result Value :=
  match target, i with
  | list vs, int n =>
    if n.toInt < 0 then .error (.index n vs.length)
    else match vs[n.toInt.toNat]? with
      | some v => .ok v
      | none => .error (.index n vs.length)
  | record fs, str key => field (record fs) key
  | t, i => .error (.type (.cannotIndex t.kind i.kind))

end Tether.Value
