import Tether.Expr.Basic
import Tether.Text.Split

/-! Documents: trees of named bindings. A leaf holds an expression and, with parameters, is a
function; a block holds bindings. -/
namespace Tether

/-- A parameter; only the last one of a binding may be variadic. -/
structure Param where
  name : String
  variadic : Bool
  deriving DecidableEq, Repr

structure Source where
  text : String
  expr : Expr

inductive Binding where
  | leaf (name : String) (params : List Param) (source : Source)
  | block (name : String) (entries : List Binding)

structure Document where
  bindings : List Binding

namespace Binding

def name : Binding → String
  | leaf n _ _ => n
  | block n _ => n

def params : Binding → List Param
  | leaf _ ps _ => ps
  | block _ _ => []

def isFunction (b : Binding) : Bool := !b.params.isEmpty

def entries : Binding → List Binding
  | leaf _ _ _ => []
  | block _ es => es

end Binding

def find? (name : String) (bs : List Binding) : Option Binding := bs.find? (·.name == name)

/-- The binding a path of names leads to; the empty path leads nowhere. -/
def resolve? (bs : List Binding) : List String → Option Binding
  | [] => none
  | [n] => find? n bs
  | n :: m :: ns => (find? n bs).bind fun b => resolve? b.entries (m :: ns)

namespace Document

def find? (d : Document) (name : String) : Option Binding := Tether.find? name d.bindings

def resolve? (d : Document) (path : List String) : Option Binding :=
  Tether.resolve? d.bindings path

def names (d : Document) : List String := d.bindings.map Binding.name

end Document

end Tether
