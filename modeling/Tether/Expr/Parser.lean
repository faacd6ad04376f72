import Tether.Expr.Token

/-! Expressions read from tokens. A conditional is looser than the binary operators, whose ranks go
from `||` (5) down to products (1); prefix operators, suffixes and primaries bind tighter still.
Parentheses, operators of a chain, prefix operators and suffixes each use up one level of nesting,
and `grammar n` reads what fits into `n` further levels. -/
namespace Tether

def BinaryOp.rank : BinaryOp → Nat
  | .mul | .div | .rem => 1
  | .add | .sub => 2
  | .eq | .ne | .lt | .le | .gt | .ge => 3
  | .and => 4
  | .or => 5

def Sym.binary? : Sym → Option BinaryOp
  | .plus => some .add | .minus => some .sub | .star => some .mul | .slash => some .div
  | .percent => some .rem | .eq => some .eq | .ne => some .ne | .lt => some .lt | .le => some .le
  | .gt => some .gt | .ge => some .ge | .and => some .and | .or => some .or
  | _ => none

def Sym.unary? : Sym → Option UnaryOp
  | .minus => some .neg | .bang => some .not
  | _ => none

namespace Parser

def maxNesting : Nat := 128

abbrev Parse (α : Type) := List Token → Except SyntaxError (α × List Token)

/-- What can be read with a fixed number of levels of nesting left. -/
structure Grammar where
  expr : Parse Expr
  conditional : Parse Expr
  /-- An operand of the operators that bind looser than a rank. -/
  operand : Nat → Parse Expr
  /-- The operators of a rank after their first operand. -/
  chain : Nat → Expr → Parse Expr
  unary : Parse Expr
  /-- The calls and indexings after their target. -/
  suffix : Expr → Parse Expr

variable (stop : Nat)

def here : List Token → Nat
  | [] => stop
  | t :: _ => t.start

def expect (s : Sym) (ts : List Token) : Except SyntaxError (List Token) :=
  match ts with
  | [] => .error ⟨stop, .expected s none⟩
  | t :: ts =>
    match t.tok with
    | .sym s' => if s' = s then .ok ts else .error ⟨t.start, .expected s (some t.tok)⟩
    | _ => .error ⟨t.start, .expected s (some t.tok)⟩

def starts (s : Sym) : List Token → Bool
  | ⟨.sym s', _, _⟩ :: _ => s' = s
  | _ => false

def descend {α : Type} (lower : Option Grammar) (read : Grammar → Parse α) : Parse α := fun ts =>
  match lower with
  | none => .error ⟨here stop ts, .tooDeep maxNesting⟩
  | some g => read g ts

/-- Items with commas between them up to `close`, no more than `n`. -/
def items (item : Parse Expr) (close : Sym) : Nat → Parse (List Expr)
  | 0, ts => .error ⟨here stop ts, .endOfInput⟩
  | n + 1, ts => do
    let (x, ts) ← item ts
    if starts close ts then return ([x], ts.tail)
    let ts ← expect stop .comma ts
    let (xs, ts) ← items item close n ts
    return (x :: xs, ts)

/-- A list up to `close`, where no comma stands after the last item. Every item takes a token, so
there are no more items than tokens. -/
def commaList (item : Parse Expr) (close : Sym) : Parse (List Expr) := fun ts =>
  if starts close ts then .ok ([], ts.tail) else items stop item close (ts.length + 1) ts

def dottedName : Parse (List String)
  | ⟨.sym .dot, _, _⟩ :: ⟨.ident name, _, _⟩ :: ts => do
    let (names, ts) ← dottedName ts
    return (name :: names, ts)
  | ⟨.sym .dot, start, _⟩ :: _ => .error ⟨start, .nameAfterDot⟩
  | ts => .ok ([], ts)

def primary (expr : Parse Expr) : Parse Expr
  | [] => .error ⟨stop, .endOfInput⟩
  | t :: ts =>
    match t.tok with
    | .int n => .ok (.int n, ts)
    | .float x => .ok (.float x, ts)
    | .str s => .ok (.str s, ts)
    | .ident "true" => .ok (.bool true, ts)
    | .ident "false" => .ok (.bool false, ts)
    | .ident name => do
      let (names, ts) ← dottedName ts
      return (.path (name :: names), ts)
    | .sym .lparen => do
      let (e, ts) ← expr ts
      let ts ← expect stop .rparen ts
      return (e, ts)
    | .sym .lbracket => do
      let (es, ts) ← commaList stop expr .rbracket ts
      return (.list es, ts)
    | .sym _ => .error ⟨t.start, .unexpected t.tok⟩

def expr (lower : Option Grammar) : Parse Expr := descend stop lower (·.conditional)

def suffix (lower : Option Grammar) (target : Expr) : Parse Expr := fun ts =>
  match ts with
  | ⟨.sym .lparen, _, _⟩ :: _ =>
    descend stop lower (fun g ts => do
      let (args, ts) ← commaList stop g.expr .rparen ts.tail
      g.suffix (.call target args) ts) ts
  | ⟨.sym .lbracket, _, _⟩ :: _ =>
    descend stop lower (fun g ts => do
      let (i, ts) ← g.expr ts.tail
      let ts ← expect stop .rbracket ts
      g.suffix (.index target i) ts) ts
  | _ => .ok (target, ts)

def unaryOp? : List Token → Option UnaryOp
  | ⟨.sym s, _, _⟩ :: _ => s.unary?
  | _ => none

def unary (lower : Option Grammar) : Parse Expr := fun ts =>
  match unaryOp? ts with
  | some op => do
    let (e, ts) ← descend stop lower (·.unary) ts.tail
    return (.unary op e, ts)
  | none => do
    let (e, ts) ← primary stop (expr stop lower) ts
    suffix stop lower e ts

def binaryOp? (rank : Nat) : List Token → Option BinaryOp
  | ⟨.sym s, _, _⟩ :: _ => s.binary?.filter (·.rank = rank)
  | _ => none

/-- Operators of one rank associate to the left, but comparisons do not chain. -/
def chain (lower : Option Grammar) (rank : Nat) (left : Expr) : Parse Expr := fun ts =>
  match binaryOp? rank ts with
  | none => .ok (left, ts)
  | some op =>
    descend stop lower (fun g ts => do
      let (right, ts) ← g.operand (rank - 1) ts
      if rank = 3 then return (.binary op left right, ts)
      g.chain rank (.binary op left right) ts) ts.tail

def operand (lower : Option Grammar) : Nat → Parse Expr
  | 0 => unary stop lower
  | rank + 1 => fun ts => do
    let (left, ts) ← operand lower rank ts
    chain stop lower (rank + 1) left ts

def conditional (lower : Option Grammar) : Parse Expr := fun ts => do
  let (test, ts) ← operand stop lower 5 ts
  if starts .question ts then
    let (yes, ts) ← expr stop lower ts.tail
    let ts ← expect stop .colon ts
    let (no, ts) ← expr stop lower ts
    return (.cond test yes no, ts)
  else return (test, ts)

def level (lower : Option Grammar) : Grammar where
  expr := expr stop lower
  conditional := conditional stop lower
  operand := operand stop lower
  chain := chain stop lower
  unary := unary stop lower
  suffix := suffix stop lower

def grammar : Nat → Grammar
  | 0 => level stop none
  | n + 1 => level stop (some (grammar n))

end Parser

def Expr.ofTokens (stop : Nat) (ts : List Token) : Except SyntaxError Expr :=
  if ts.isEmpty then .error ⟨0, .empty⟩
  else do
    let (e, rest) ← (Parser.grammar stop Parser.maxNesting).expr ts
    match rest with
    | [] => return e
    | t :: _ => .error ⟨t.start, .unexpected t.tok⟩

def Expr.parse (cs : List Char) : Except SyntaxError Expr := do
  let ts ← Token.scan cs
  Expr.ofTokens (Text.bytes cs) ts

end Tether
