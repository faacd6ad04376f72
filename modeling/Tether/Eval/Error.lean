import Tether.Expr.Token
import Tether.Text.Quoted
import Tether.Value.Basic

/-! Why an evaluation fails. -/
namespace Tether

inductive Arity where
  | exactly (n : Nat)
  | atLeast (n : Nat)
  deriving DecidableEq, Repr

def Arity.text : Arity → String
  | .exactly n => toString n
  | .atLeast n => "at least " ++ toString n

def Arity.accepts : Arity → Nat → Bool
  | .exactly n, got => got = n
  | .atLeast n, got => n ≤ got

inductive TypeFault where
  | notCallable (got : ValueKind)
  | overflow
  | unary (op : UnaryOp) (got : ValueKind)
  | binary (op : BinaryOp) (left right : ValueKind)
  | notBool (got : ValueKind)
  | noFields (field : String) (got : ValueKind)
  | cannotIndex (target index : ValueKind)
  | cannotCompare (left right : ValueKind)
  | unordered
  | isBlock (name : String)
  | argument (function wanted : String) (got : ValueKind)
  | missingArgument
  | emptySeparator
  | notAnInteger (text : String)
  | negativeCount
  | badExponent
  | emptyInterval (low high : Int64)

def UnaryOp.label : UnaryOp → String
  | .neg => "Neg"
  | .not => "Not"

def BinaryOp.label : BinaryOp → String
  | .add => "Add" | .sub => "Sub" | .mul => "Mul" | .div => "Div" | .rem => "Rem" | .eq => "Eq"
  | .ne => "Ne" | .lt => "Lt" | .le => "Le" | .gt => "Gt" | .ge => "Ge" | .and => "And"
  | .or => "Or"

def int64Text (n : Int64) : String := String.ofList (Number.intText n.toInt)

def TypeFault.message : TypeFault → String
  | .notCallable k => k.text ++ " is not callable"
  | .overflow => "integer overflow"
  | .unary op k => "cannot apply " ++ op.label ++ " to " ++ k.text
  | .binary op l r => "cannot apply " ++ op.label ++ " to " ++ l.text ++ " and " ++ r.text
  | .notBool k => "expected bool, got " ++ k.text
  | .noFields f k => "cannot access `" ++ f ++ "` on " ++ k.text
  | .cannotIndex t i => "cannot index " ++ t.text ++ " with " ++ i.text
  | .cannotCompare l r => "cannot compare " ++ l.text ++ " with " ++ r.text
  | .unordered => "cannot compare NaN"
  | .isBlock n => "`" ++ n ++ "` is a block"
  | .argument f w k => f ++ " expects " ++ w ++ ", got " ++ k.text
  | .missingArgument => "missing argument"
  | .emptySeparator => "split separator must not be empty"
  | .notAnInteger t => "cannot convert " ++ String.ofList (Text.quoted t.toList) ++ " to int"
  | .negativeCount => "strings.repeat count must not be negative"
  | .badExponent => "math.pow exponent must be a small non-negative int"
  | .emptyInterval l h =>
    "math.clamp lower bound " ++ int64Text l ++ " exceeds upper bound " ++ int64Text h

inductive EvalError where
  | badSyntax (error : SyntaxError)
  | unknownName (name : String)
  | namespaceUsed (path : String)
  | arity (name : String) (wanted : Arity) (got : Nat)
  | type (fault : TypeFault)
  | divisionByZero
  | index (index : Int64) (length : Nat)
  | recursionLimit (name : String)
  | tooLarge (name : String) (limit : Nat)

def EvalError.message : EvalError → String
  | .badSyntax e => "syntax error: " ++ e.message
  | .unknownName n => "unknown name `" ++ n ++ "`"
  | .namespaceUsed p => "`" ++ p ++ "` is a namespace, not a value"
  | .arity n w g => "`" ++ n ++ "` expects " ++ w.text ++ " argument(s), got " ++ toString g
  | .type f => "type error: " ++ f.message
  | .divisionByZero => "division by zero"
  | .index i n => "index " ++ int64Text i ++ " out of range for list of length " ++ toString n
  | .recursionLimit n => "recursion limit exceeded while evaluating `" ++ n ++ "`"
  | .tooLarge n l => "`" ++ n ++ "` result would exceed " ++ toString l ++ " elements"

abbrev Result := Except EvalError

end Tether
