import Tether.Eval.Error

/-! Functions that are not defined in a document, and the types they are declared with. -/
namespace Tether

inductive ParamKind where
  | string | int | float | bool | func | any
  deriving DecidableEq, Repr

def ParamKind.generic : ParamKind → String
  | .string => "string"
  | .int => "int"
  | .float => "float"
  | .bool => "bool"
  | .func => "func"
  | .any => "v"

/-- The last parameter of a variadic function takes any number of arguments, also none. -/
structure FnType where
  params : List ParamKind
  variadic : Bool
  deriving DecidableEq, Repr

namespace FnType

def fixed (params : List ParamKind) : FnType := ⟨params, false⟩

def variadicOf (params : List ParamKind) : FnType := ⟨params, true⟩

def arity (t : FnType) : Arity :=
  if t.variadic then .atLeast (t.params.length - 1) else .exactly t.params.length

def accepts (t : FnType) (got : Nat) : Bool := t.arity.accepts got

end FnType

abbrev Call := Func → List Value → Result Value

/-- A function with a body of its own; `name` is how errors tell it. -/
structure Native where
  name : String
  type : FnType
  run : Call → List Value → Result Value

def maxGenerated : Nat := 0x100000

namespace Value

def wrong (function wanted : String) (v : Value) : EvalError :=
  .type (.argument function wanted v.kind)

def asString (function : String) : Value → Result String
  | str s => .ok s
  | v => .error (wrong function "a string" v)

def asInt (function : String) : Value → Result Int64
  | int n => .ok n
  | v => .error (wrong function "an int" v)

def asList (function : String) : Value → Result (List Value)
  | list vs => .ok vs
  | v => .error (wrong function "a list" v)

def asFunc (function : String) : Value → Result Func
  | func f => .ok f
  | v => .error (wrong function "a function" v)

end Value

namespace Native

def ofUnary (name : String) (kind : ParamKind) (f : Value → Result Value) : Native where
  name := name
  type := .fixed [kind]
  run := fun _ args =>
    match args with
    | [v] => f v
    | _ => .error (.type .missingArgument)

def ofBinary (name : String) (first second : ParamKind) (f : Call → Value → Value → Result Value) :
    Native where
  name := name
  type := .fixed [first, second]
  run := fun call args =>
    match args with
    | [v, w] => f call v w
    | _ => .error (.type .missingArgument)

end Native

end Tether
