import Tether.Text.Split

/-! What expressions evaluate to. -/
namespace Tether

/-- A function by its name: a binding with parameters by its path, a native function alone or in
the library. -/
inductive Func where
  | binding (path : List String)
  | builtin (name : String)
  | library (path : String)
  deriving DecidableEq, Repr

def Func.name : Func → String
  | .binding path => Text.dotted path
  | .builtin name => name
  | .library path => path

inductive Value where
  | int (n : Int64)
  | float (x : Float)
  | str (s : String)
  | bool (b : Bool)
  | list (items : List Value)
  /-- A block with all its bindings evaluated, in order. -/
  | record (fields : List (String × Value))
  | func (f : Func)
  deriving Inhabited

inductive ValueKind where
  | int | float | string | bool | list | record | function
  deriving DecidableEq, Repr

def ValueKind.text : ValueKind → String
  | .int => "int"
  | .float => "float"
  | .string => "string"
  | .bool => "bool"
  | .list => "list"
  | .record => "record"
  | .function => "function"

namespace Value

def kind : Value → ValueKind
  | int _ => .int
  | float _ => .float
  | str _ => .string
  | bool _ => .bool
  | list _ => .list
  | record _ => .record
  | func _ => .function

def number? : Value → Option Float
  | int n => some (Float.ofInt n.toInt)
  | float x => some x
  | _ => none

end Value

end Tether
