import Tether.Document.Basic
import Tether.Expr.Parser
import Tether.Native.Builtin
import Tether.Native.Library

/-! Evaluation of expressions. A name stands for a parameter, else for a binding of the enclosing
blocks, innermost first, else for a builtin, else for an entry of the library. Values of bindings
and calls nest at most `maxDepth` deep: `reach doc n` is what can be done with `n` levels left. -/
namespace Tether

/-- Where an expression stands: the path of the block around it, and the parameters by name. -/
structure Scope where
  block : List String
  locals : List (String × Value)

structure Reach where
  valueOf : List String → Result Value
  call : Call

namespace Document

/-- The bindings of the block a path leads to, the empty path to the document. -/
def entriesAt (d : Document) : List String → List Binding
  | [] => d.bindings
  | path => ((d.resolve? path).map Binding.entries).getD []

/-- The innermost of the blocks around a place that binds a name. -/
def home? (d : Document) (block : List String) (name : String) : Option (List String) :=
  ((List.range (block.length + 1)).reverse.map block.take).find? fun p =>
    (Tether.find? name (d.entriesAt p)).isSome

end Document

namespace Evaluator

def maxDepth : Nat := 128

def nativeValue (names : List String) : Result Value :=
  let path := Text.dotted names
  match names with
  | [n] =>
    match Builtin.find? n with
    | some b => .ok (.func (.builtin b.name))
    | none => inLibrary path
  | _ => inLibrary path
where
  inLibrary (path : String) : Result Value :=
    match Library.find? path with
    | some (.function _) => .ok (.func (.library path))
    | some (.group _) => .error (.namespaceUsed path)
    | none => .error (.unknownName path)

def resolve (d : Document) (r : Reach) (s : Scope) : List String → Result Value
  | [] => .error (.unknownName "")
  | n :: ns =>
    match s.locals.lookup n with
    | some v => ns.foldlM Value.field v
    | none =>
      match d.home? s.block n with
      | some p =>
        if (d.resolve? (p ++ n :: ns)).isSome then r.valueOf (p ++ n :: ns)
        else .error (.unknownName (Text.dotted (n :: ns)))
      | none => nativeValue (n :: ns)

mutual

def eval (d : Document) (r : Reach) (s : Scope) : Expr → Result Value
  | .int n => .ok (.int n)
  | .float x => .ok (.float x)
  | .str t => .ok (.str t)
  | .bool b => .ok (.bool b)
  | .list es => return .list (← evalList d r s es)
  | .path names => resolve d r s names
  | .call callee args => do
    match ← eval d r s callee with
    | .func f => r.call f (← evalList d r s args)
    | v => throw (.type (.notCallable v.kind))
  | .index target i => do
    let v ← eval d r s target
    Value.index v (← eval d r s i)
  | .unary op e => do
    let v ← eval d r s e
    match op with
    | .neg => v.neg
    | .not => v.not
  | .binary .and a b => do
    if ← (← eval d r s a).toBool then return .bool (← (← eval d r s b).toBool)
    else return .bool false
  | .binary .or a b => do
    if ← (← eval d r s a).toBool then return .bool true
    else return .bool (← (← eval d r s b).toBool)
  | .binary op a b => do
    let v ← eval d r s a
    Value.binary op v (← eval d r s b)
  | .cond test yes no => do
    if ← (← eval d r s test).toBool then eval d r s yes else eval d r s no

def evalList (d : Document) (r : Reach) (s : Scope) : List Expr → Result (List Value)
  | [] => .ok []
  | e :: es => do
    let v ← eval d r s e
    return v :: (← evalList d r s es)

end

def enter (name : String) (lower : Option Reach) (f : Reach → Result Value) : Result Value :=
  match lower with
  | none => .error (.recursionLimit name)
  | some r => f r

def valueOf (d : Document) (lower : Option Reach) (path : List String) : Result Value :=
  match d.resolve? path with
  | none => .error (.unknownName (Text.dotted path))
  | some (.leaf _ [] source) =>
    enter (Text.dotted path) lower fun r => eval d r ⟨path.dropLast, []⟩ source.expr
  | some (.leaf _ (_ :: _) _) => .ok (.func (.binding path))
  | some (.block _ es) =>
    enter (Text.dotted path) lower fun r => do
      return .record (← es.mapM fun b => return (b.name, ← r.valueOf (path ++ [b.name])))

def paramArity (ps : List Param) : Arity :=
  if ps.getLast?.any (·.variadic) then .atLeast (ps.length - 1) else .exactly ps.length

/-- Parameters with their arguments; a variadic one has the list of all that are left. For
parameters that were read these are the `assignments` of a call. -/
def bindParams : List Param → List Value → List (String × Value)
  | [], _ => []
  | p :: ps, args =>
    if p.variadic then [(p.name, .list args)]
    else match args with
      | [] => []
      | v :: vs => (p.name, v) :: bindParams ps vs

/-- The assignments of a call one after the other, the last one first: the list of the arguments that
are left for a variadic last parameter, and then the other arguments. -/
def assignments (ps : List Param) (args : List Value) : List (String × Value) :=
  let variadic := ps.getLast?.any (·.variadic)
  let fixed := if variadic then ps.length - 1 else ps.length
  let rest := if variadic then ps.getLast?.toList.map fun p => (p.name, .list (args.drop fixed))
    else []
  (ps.zip (args.take fixed)).foldl
    (fun locals (p, v) => if p.variadic then locals else (p.name, v) :: locals) rest

def callBinding (d : Document) (lower : Option Reach) (path : List String) (args : List Value) :
    Result Value :=
  let name := Text.dotted path
  match d.resolve? path with
  | none => .error (.unknownName name)
  | some (.block _ _) => .error (.type (.isBlock name))
  | some (.leaf _ ps source) =>
    if (paramArity ps).accepts args.length then
      enter name lower fun r => eval d r ⟨path.dropLast, bindParams ps args⟩ source.expr
    else .error (.arity name (paramArity ps) args.length)

def callNative (lower : Option Reach) (name : String) (f : Native) (args : List Value) :
    Result Value :=
  if f.type.accepts args.length then enter name lower fun r => f.run r.call args
  else .error (.arity name f.type.arity args.length)

def call (d : Document) (lower : Option Reach) : Call
  | .binding path, args => callBinding d lower path args
  | .builtin name, args =>
    match Builtin.find? name with
    | some f => callNative lower name f args
    | none => .error (.unknownName name)
  | .library path, args =>
    match Library.find? path with
    | some (.function f) => callNative lower path f args
    | _ => .error (.unknownName path)

def reachOver (d : Document) (lower : Option Reach) : Reach := ⟨valueOf d lower, call d lower⟩

def reach (d : Document) : Nat → Reach
  | 0 => reachOver d none
  | n + 1 => reachOver d (some (reach d n))

end Evaluator

def Document.evaluate (d : Document) (text : String) : Result Value :=
  match Expr.parse (Text.trim text.toList) with
  | .error e => .error (.badSyntax e)
  | .ok e => Evaluator.eval d (Evaluator.reach d Evaluator.maxDepth) ⟨[], []⟩ e

structure ValidationError where
  path : String
  error : EvalError

def ValidationError.message (e : ValidationError) : String :=
  "binding `" ++ e.path ++ "` failed to evaluate: " ++ e.error.message

mutual

def Binding.valuePaths (path : List String) : Binding → List (List String)
  | .leaf n [] _ => [path ++ [n]]
  | .leaf _ (_ :: _) _ => []
  | .block n es => valuePathsIn (path ++ [n]) es

def valuePathsIn (path : List String) : List Binding → List (List String)
  | [] => []
  | b :: bs => b.valuePaths path ++ valuePathsIn path bs

end

/-- The first leaf without parameters that has no value, if there is one. -/
def Document.validate (d : Document) : Except ValidationError Unit :=
  (valuePathsIn [] d.bindings).forM fun path =>
    match (Evaluator.reach d Evaluator.maxDepth).valueOf path with
    | .ok _ => .ok ()
    | .error e => .error ⟨Text.dotted path, e⟩

end Tether
