import Tether.Eval.Evaluator

/-! Evaluation and validation with a counter: one number for the levels that are entered, raised
before a value or a call and lowered after it, whatever comes of it. Nothing but the counter ends a
recursion; the fuel of `machine` only lets the definition be accepted. -/
namespace Tether
open Text (dotted)

/-- A computation that can change the counter, also when it fails, or that runs out of fuel. -/
abbrev Counted := ExceptT EvalError (StateT Nat Option)

structure Machine where
  valueOf : List String → Counted Value
  call : Func → List Value → Counted Value

namespace Counted
variable {α β : Type}

/-- Lowers the counter after `x`, also after a failure. -/
def leaving (x : Counted α) : Counted α := do
  let result ← ExceptT.lift x.run
  modify (· - 1)
  liftExcept result

def within (name : String) (x : Counted α) : Counted α := do
  let depth ← get
  if Evaluator.maxDepth ≤ depth then throw (.recursionLimit name)
  set (depth + 1)
  leaving x

def resolve (d : Document) (m : Machine) (s : Scope) : List String → Counted Value
  | [] => throw (.unknownName "")
  | n :: ns =>
    match s.locals.lookup n with
    | some v => liftExcept (ns.foldlM Value.field v)
    | none =>
      match d.home? s.block n with
      | some p =>
        if (d.resolve? (p ++ n :: ns)).isSome then m.valueOf (p ++ n :: ns)
        else throw (.unknownName (dotted (n :: ns)))
      | none => liftExcept (Evaluator.nativeValue (n :: ns))

mutual

def eval (d : Document) (m : Machine) (s : Scope) : Expr → Counted Value
  | .int n => return .int n
  | .float x => return .float x
  | .str t => return .str t
  | .bool b => return .bool b
  | .list es => return .list (← evalList d m s es)
  | .path names => resolve d m s names
  | .call callee args => do
    match ← eval d m s callee with
    | .func f => m.call f (← evalList d m s args)
    | v => throw (.type (.notCallable v.kind))
  | .index target i => do
    let v ← eval d m s target
    liftExcept (v.index (← eval d m s i))
  | .unary op e => do
    let v ← eval d m s e
    match op with
    | .neg => liftExcept v.neg
    | .not => liftExcept v.not
  | .binary .and a b => do
    if ← liftExcept (← eval d m s a).toBool then
      return .bool (← liftExcept (← eval d m s b).toBool)
    else return .bool false
  | .binary .or a b => do
    if ← liftExcept (← eval d m s a).toBool then return .bool true
    else return .bool (← liftExcept (← eval d m s b).toBool)
  | .binary op a b => do
    let v ← eval d m s a
    liftExcept (v.binary op (← eval d m s b))
  | .cond test yes no => do
    if ← liftExcept (← eval d m s test).toBool then eval d m s yes else eval d m s no

def evalList (d : Document) (m : Machine) (s : Scope) : List Expr → Counted (List Value)
  | [] => return []
  | e :: es => do
    let v ← eval d m s e
    return v :: (← evalList d m s es)

end

def valueOf (d : Document) (m : Machine) (path : List String) : Counted Value :=
  match d.resolve? path with
  | none => throw (.unknownName (dotted path))
  | some (.leaf _ [] source) => within (dotted path) (eval d m ⟨path.dropLast, []⟩ source.expr)
  | some (.leaf _ (_ :: _) _) => return .func (.binding path)
  | some (.block _ es) => within (dotted path) do
    return .record (← es.mapM fun b => do return (b.name, ← m.valueOf (path ++ [b.name])))

def callBinding (d : Document) (m : Machine) (path : List String) (args : List Value) :
    Counted Value :=
  match d.resolve? path with
  | none => throw (.unknownName (dotted path))
  | some (.block _ _) => throw (.type (.isBlock (dotted path)))
  | some (.leaf _ ps source) =>
    if (Evaluator.paramArity ps).accepts args.length then
      within (dotted path) (eval d m ⟨path.dropLast, Evaluator.bindParams ps args⟩ source.expr)
    else throw (.arity (dotted path) (Evaluator.paramArity ps) args.length)

section Callers
variable (m : Machine)

def holds (f : Func) (v : Value) : Counted Bool := do liftExcept (← m.call f [v]).toBool

def filter (v w : Value) : Counted Value := do
  let vs ← liftExcept (v.asList "filter")
  let f ← liftExcept (w.asFunc "filter")
  return .list (← vs.filterM (holds m f))

def map (v w : Value) : Counted Value := do
  let vs ← liftExcept (v.asList "map")
  let f ← liftExcept (w.asFunc "map")
  return .list (← vs.mapM fun v => m.call f [v])

def all (v w : Value) : Counted Value := do
  let vs ← liftExcept (v.asList "all")
  let f ← liftExcept (w.asFunc "all")
  return .bool (← vs.allM (holds m f))

def any (v w : Value) : Counted Value := do
  let vs ← liftExcept (v.asList "any")
  let f ← liftExcept (w.asFunc "any")
  return .bool (← vs.anyM (holds m f))

/-- The builtins that call a function; all others compute without the counter. -/
def caller? : String → Option (Value → Value → Counted Value)
  | "filter" => some (filter m)
  | "map" => some (map m)
  | "all" => some (all m)
  | "any" => some (any m)
  | _ => none

end Callers

def noCalls : Call := fun f _ => .error (.unknownName f.name)

def runBuiltin (m : Machine) (f : Native) (args : List Value) : Counted Value :=
  match caller? m f.name, args with
  | some g, [v, w] => g v w
  | _, _ => liftExcept (f.run noCalls args)

def call (d : Document) (m : Machine) : Func → List Value → Counted Value
  | .binding path, args => callBinding d m path args
  | .builtin name, args =>
    match Builtin.find? name with
    | some f =>
      if f.type.accepts args.length then within name (runBuiltin m f args)
      else throw (.arity name f.type.arity args.length)
    | none => throw (.unknownName name)
  | .library path, args =>
    match Library.find? path with
    | some (.function f) =>
      if f.type.accepts args.length then within path (liftExcept (f.run noCalls args))
      else throw (.arity path f.type.arity args.length)
    | _ => throw (.unknownName path)

def outOfFuel : Counted α := ExceptT.mk (StateT.lift none)

/-- The fuel is how deep values and calls may nest whatever the counter says. -/
def machine (d : Document) : Nat → Machine
  | 0 => ⟨fun _ => outOfFuel, fun _ _ => outOfFuel⟩
  | n + 1 => ⟨valueOf d (machine d n), call d (machine d n)⟩

end Counted

structure Visit where
  depth : Nat
  path : List String
  deriving DecidableEq, Repr

/-- A validation, which has one counter and one path for all bindings. -/
abbrev Visiting := ExceptT ValidationError (StateT Visit Option)

namespace Visiting

def push (name : String) : Visiting Unit := modify fun w => { w with path := w.path ++ [name] }

def pop : Visiting Unit := modify fun w => { w with path := w.path.dropLast }

def check (m : Machine) : Visiting Unit := ExceptT.mk fun w =>
  ((m.valueOf w.path).run.run w.depth).map fun (result, depth) =>
    (match result with
      | .ok _ => .ok ()
      | .error e => .error ⟨dotted w.path, e⟩,
    { w with depth := depth })

mutual

def binding (m : Machine) : Binding → Visiting Unit
  | .leaf n ps _ => do
    push n
    if ps.isEmpty then check m
    pop
  | .block n es => do
    push n
    block m es
    pop

def block (m : Machine) : List Binding → Visiting Unit
  | [] => return
  | b :: bs => do
    binding m b
    block m bs

end

def document (d : Document) (fuel : Nat) : Visiting Unit :=
  block (Counted.machine d fuel) d.bindings

end Visiting

end Tether
