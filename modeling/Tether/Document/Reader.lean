import Tether.Document.Basic
import Tether.Expr.Parser

/-! Documents read line by line. White space around a line, blank lines and lines that begin with
`#` do not matter. -/
namespace Tether

inductive ParseFault where
  | unmatchedBrace
  | duplicateBinding (name : String)
  | noValue (name : String)
  | badExpression (name : String) (error : SyntaxError)
  | unknownLine (line : String)
  | invalidBlockName (name : String)
  | unclosedBlock (name : String)
  | missingName
  | invalidName (name : String)
  | variadicNotLast
  | invalidParam (word : String)
  | duplicateParam (name : String)

def ParseFault.message : ParseFault → String
  | .unmatchedBrace => "unmatched `\x7d`"
  | .duplicateBinding n => "duplicate binding `" ++ n ++ "`"
  | .noValue n => "`" ++ n ++ "` has no value"
  | .badExpression n e => "in `" ++ n ++ "`: " ++ e.message
  | .unknownLine l => "expected `name = value` or `name \x7b`, found `" ++ l ++ "`"
  | .invalidBlockName n => "invalid block name `" ++ n ++ "`"
  | .unclosedBlock n => "unclosed block `" ++ n ++ "`"
  | .missingName => "missing binding name"
  | .invalidName n => "invalid binding name `" ++ n ++ "`"
  | .variadicNotLast => "only the last parameter may be variadic"
  | .invalidParam w => "invalid parameter `" ++ w ++ "`"
  | .duplicateParam n => "duplicate parameter `" ++ n ++ "`"

def lineMessage (line : Nat) (text : String) : String := "line " ++ toString line ++ ": " ++ text

/-- A fault in a line, counted from 1. -/
structure ParseError where
  line : Nat
  fault : ParseFault

def ParseError.message (e : ParseError) : String := lineMessage e.line e.fault.message

namespace Document

inductive Line where
  | blank
  | close
  | value (head body : List Char)
  | emptyBlock (name : List Char)
  | opening (name : List Char)
  | unknown (line : List Char)

def Line.classify (raw : List Char) : Line :=
  let line := Text.trim raw
  if line.isEmpty || line.head? == some '#' then .blank
  else if line = ['\x7d'] then .close
  else match Text.splitOnce? '=' line with
    | some (head, body) => .value head body
    | none =>
      match Text.before? ['\x7b', '\x7d'] line with
      | some head => .emptyBlock (Text.trim head)
      | none =>
        match Text.before? ['\x7b'] line with
        | some head => .opening (Text.trim head)
        | none => .unknown line

def readParams (known : List Param) : List (List Char) → Except ParseFault (List Param)
  | [] => .ok known
  | w :: ws =>
    if known.getLast?.any (·.variadic) then .error .variadicNotLast
    else
      let (variadic, name) := match Text.after? ['.', '.', '.'] w with
        | some rest => (true, rest)
        | none => (false, w)
      if !isName name then .error (.invalidParam (String.ofList w))
      else if known.any (·.name == String.ofList name) then
        .error (.duplicateParam (String.ofList name))
      else readParams (known ++ [⟨String.ofList name, variadic⟩]) ws

def readHead (head : List Char) : Except ParseFault (String × List Param) :=
  match Text.words head with
  | [] => .error .missingName
  | name :: ws =>
    if isName name then (readParams [] ws).map fun ps => (String.ofList name, ps)
    else .error (.invalidName (String.ofList name))

/-- A block that is not closed yet, with the bindings that stand before it. -/
structure OpenBlock where
  name : String
  line : Nat
  before : List Binding

/-- The bindings of the innermost open block so far, and the blocks around them. -/
structure Reading where
  entries : List Binding
  blocks : List OpenBlock

namespace Reading

def add (r : Reading) (b : Binding) : Reading := ⟨r.entries ++ [b], r.blocks⟩

def has (r : Reading) (name : String) : Bool := r.entries.any (·.name == name)

def blockName (r : Reading) (name : List Char) : Except ParseFault String :=
  if !isName name then .error (.invalidBlockName (String.ofList name))
  else if r.has (String.ofList name) then .error (.duplicateBinding (String.ofList name))
  else .ok (String.ofList name)

def leaf (r : Reading) (head body : List Char) : Except ParseFault Binding := do
  let (name, params) ← readHead head
  if r.has name then throw (.duplicateBinding name)
  let text := Text.trim body
  if text.isEmpty then throw (.noValue name)
  match Expr.parse text with
  | .ok e => return .leaf name params ⟨String.ofList text, e⟩
  | .error e => throw (.badExpression name e)

def step (r : Reading) (n : Nat) : Line → Except ParseFault Reading
  | .blank => .ok r
  | .close =>
    match r.blocks with
    | [] => .error .unmatchedBrace
    | b :: bs => .ok ⟨b.before ++ [.block b.name r.entries], bs⟩
  | .value head body => return r.add (← r.leaf head body)
  | .emptyBlock name => return r.add (.block (← r.blockName name) [])
  | .opening name => return ⟨[], ⟨← r.blockName name, n, r.entries⟩ :: r.blocks⟩
  | .unknown line => .error (.unknownLine (String.ofList line))

def run (r : Reading) (n : Nat) : List (List Char) → Except ParseError Reading
  | [] => .ok r
  | l :: ls =>
    match r.step n (Line.classify l) with
    | .ok r => r.run (n + 1) ls
    | .error f => .error ⟨n, f⟩

end Reading

def parse (src : String) : Except ParseError Document := do
  let r ← (Reading.mk [] []).run 1 (Text.lines src.toList)
  match r.blocks with
  | [] => return ⟨r.entries⟩
  | b :: _ => throw ⟨b.line, .unclosedBlock b.name⟩

end Document

end Tether
