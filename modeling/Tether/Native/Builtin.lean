import Tether.Native.Basic
import Tether.Text.Split
import Tether.Unicode.Case
import Tether.Value.Arithmetic
import Tether.Value.Text

/-! The functions that every expression can call by a bare name. -/
namespace Tether.Builtin
open Value

def length : Value → Result Value
  | str s => .ok (int (Int64.ofNat s.length))
  | list vs => .ok (int (Int64.ofNat vs.length))
  | record fs => .ok (int (Int64.ofNat fs.length))
  | v => .error (wrong "len" "a string, list or record" v)

def upper (v : Value) : Result Value := do
  return str (String.ofList (Unicode.upper (← v.asString "upper").toList))

def lower (v : Value) : Result Value := do
  return str (String.ofList (Unicode.lower (← v.asString "lower").toList))

def trim (v : Value) : Result Value := do
  return str (Text.trimString (← v.asString "trim"))

/-- The separator is looked at before the list. -/
def join (v separator : Value) : Result Value := do
  let sep ← separator.asString "join"
  let vs ← v.asList "join"
  return str (Text.joinStrings sep (vs.map plainText))

def split (v separator : Value) : Result Value := do
  let s ← v.asString "split"
  let sep ← separator.asString "split"
  if sep.isEmpty then throw (.type .emptySeparator)
  return list ((Text.parts sep.toList s.toList).map fun p => str (String.ofList p))

def contains (v part : Value) : Result Value :=
  match v with
  | list vs => .ok (bool (vs.any (·.equal part)))
  | str s => do return bool (Text.occurs (← part.asString "contains").toList s.toList)
  | record fs => do
    let key ← part.asString "contains"
    return bool (fs.any (·.1 == key))
  | v => .error (wrong "contains" "a list, string or record" v)

def keep (test : Value → Result Bool) (kept : List Value) : List Value → Result (List Value)
  | [] => .ok kept.reverse
  | v :: vs => do if ← test v then keep test (v :: kept) vs else keep test kept vs

def mapItems (f : Value → Result Value) (done : List Value) : List Value → Result (List Value)
  | [] => .ok done.reverse
  | v :: vs => do mapItems f ((← f v) :: done) vs

/-- Stops at the first item that fails the test. -/
def allItems (test : Value → Result Bool) : List Value → Result Bool
  | [] => .ok true
  | v :: vs => do if ← test v then allItems test vs else return false

/-- Stops at the first item that meets the test. -/
def anyItem (test : Value → Result Bool) : List Value → Result Bool
  | [] => .ok false
  | v :: vs => do if ← test v then return true else anyItem test vs

def holds (call : Call) (f : Func) (v : Value) : Result Bool := do (← call f [v]).toBool

def filter (call : Call) (v f : Value) : Result Value := do
  let vs ← v.asList "filter"
  let f ← f.asFunc "filter"
  return list (← keep (holds call f) [] vs)

def map (call : Call) (v f : Value) : Result Value := do
  let vs ← v.asList "map"
  let f ← f.asFunc "map"
  return list (← mapItems (fun v => call f [v]) [] vs)

def all (call : Call) (v f : Value) : Result Value := do
  let vs ← v.asList "all"
  let f ← f.asFunc "all"
  return bool (← allItems (holds call f) vs)

def any (call : Call) (v f : Value) : Result Value := do
  let vs ← v.asList "any"
  let f ← f.asFunc "any"
  return bool (← anyItem (holds call f) vs)

/-- Adds up the integers and the floats apart, in order; the integers must stay in range. -/
def addItems (ints : Int) (floats : Option Float) : List Value → Result (Int × Option Float)
  | [] => .ok (ints, floats)
  | int n :: vs => do
    let _ ← ofInt (ints + n.toInt)
    addItems (ints + n.toInt) floats vs
  | float x :: vs => addItems ints (some (floats.getD 0.0 + x)) vs
  | v :: _ => .error (wrong "sum" "a list of numbers" v)

def sum (v : Value) : Result Value := do
  let vs ← v.asList "sum"
  match ← addItems 0 none vs with
  | (n, none) => ofInt n
  | (n, some x) => return float (x + Float.ofInt n)

/-- The first of the values that stand on the side `side` of all before. -/
def extreme (side : Ordering) (best : Value) : List Value → Result Value
  | [] => .ok best
  | v :: vs => do
    if (← order v best) == side then extreme side v vs else extreme side best vs

/-- A function that picks one of its arguments, of which there must be one. -/
def picker (name : String) (side : Ordering) : Native where
  name := name
  type := .variadicOf [.int]
  run := fun _ args =>
    match args with
    | [] => .error (.arity name (.atLeast 1) 0)
    | v :: vs => extreme side v vs

/-- An integer with or without a sign, in ASCII digits and in range. -/
def readInt? (cs : List Char) : Option Int :=
  let (negative, ds) := match cs with
    | '-' :: ds => (true, ds)
    | '+' :: ds => (false, ds)
    | ds => (false, ds)
  if ds.isEmpty || !ds.all Char.isDigit then none
  else
    let n : Int := Token.digitsValue ds
    let n := if negative then -n else n
    if Number.inRange n then some n else none

def toInt : Value → Result Value
  | int n => .ok (int n)
  | float x => .ok (int (Number.toInt64 x))
  | .bool b => .ok (int (if b then 1 else 0))
  | str s =>
    match readInt? (Text.trim s.toList) with
    | some n => .ok (int (Int64.ofInt n))
    | none => .error (.type (.notAnInteger s))
  | v => .error (wrong "int" "a number, bool or string" v)

def range (first last : Value) : Result Value := do
  let a := (← first.asInt "range").toInt
  let b := (← last.asInt "range").toInt
  if b - a > (maxGenerated : Int) then throw (.tooLarge "range" maxGenerated)
  return list ((List.range (b - a).toNat).map fun (k : Nat) => int (Int64.ofInt (a + k)))

def abs (v : Value) : Result Value := do ofInt (← v.asInt "abs").toInt.natAbs

def table : List Native := [
  .ofUnary "len" .any length,
  .ofUnary "upper" .string upper,
  .ofUnary "lower" .string lower,
  .ofUnary "trim" .string trim,
  .ofBinary "join" .any .string fun _ => join,
  .ofBinary "split" .string .string fun _ => split,
  .ofBinary "contains" .any .any fun _ => contains,
  .ofBinary "filter" .any .func filter,
  .ofBinary "map" .any .func map,
  .ofBinary "all" .any .func all,
  .ofBinary "any" .any .func any,
  .ofUnary "sum" .any sum,
  picker "max" .gt,
  picker "min" .lt,
  .ofUnary "str" .any fun v => .ok (str v.plainText),
  .ofUnary "int" .any toInt,
  .ofBinary "range" .int .int fun _ => range,
  .ofUnary "abs" .int abs]

def find? (name : String) : Option Native := table.find? (·.name == name)

end Tether.Builtin
