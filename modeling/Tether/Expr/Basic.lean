import Tether.Unicode.Letter

/-! Expressions and the names they may hold. -/
namespace Tether

def isNameStart (c : Char) : Bool := Unicode.isAlphabetic c || c = '_'

/-- Hyphens are allowed inside names. -/
def isNameChar (c : Char) : Bool := Unicode.isAlphanumeric c || c = '_' || c = '-'

def isName : List Char → Bool
  | [] => false
  | c :: cs => isNameStart c && cs.all isNameChar

inductive UnaryOp where
  | neg | not
  deriving DecidableEq, Repr

inductive BinaryOp where
  | add | sub | mul | div | rem | eq | ne | lt | le | gt | ge | and | or
  deriving DecidableEq, Repr

inductive Expr where
  | int (n : Int64)
  | float (x : Float)
  | str (s : String)
  | bool (b : Bool)
  | list (items : List Expr)
  /-- A reference by one name or more, as in `nested.multiply`. -/
  | path (names : List String)
  | call (callee : Expr) (args : List Expr)
  | index (target index : Expr)
  | unary (op : UnaryOp) (operand : Expr)
  | binary (op : BinaryOp) (left right : Expr)
  | cond (test yes no : Expr)
  deriving Inhabited

end Tether
