import Tether.Native.Basic
import Tether.Text.Casing
import Tether.Text.Split
import Tether.Value.Arithmetic

/-! The library: functions in namespaces that nest. -/
namespace Tether

/-- A function or a namespace, whose entries are sorted by name. -/
inductive Entry (α : Type) where
  | function (f : α)
  | group (entries : List (String × Entry α))

namespace Entry

variable {α : Type}

/-- The entry a path leads to; nothing is below a function. -/
def at? (entries : List (String × Entry α)) : List String → Option (Entry α)
  | [] => none
  | [n] => entries.lookup n
  | n :: m :: ns =>
    match entries.lookup n with
    | some (group es) => at? es (m :: ns)
    | _ => none

def childPath (path name : String) : String := if path.isEmpty then name else path ++ "." ++ name

mutual

def functionsOf (path : String) : Entry α → List (String × α)
  | function f => [(path, f)]
  | group es => functionsIn path es

def functionsIn (path : String) : List (String × Entry α) → List (String × α)
  | [] => []
  | (n, e) :: es => functionsOf (childPath path n) e ++ functionsIn path es

end

def functions (entries : List (String × Entry α)) : List (String × α) := functionsIn "" entries

end Entry

namespace Library
open Value

/-- The limit is on the bytes of the result; a count that is not used up by them is free. -/
def repeatText (v count : Value) : Result Value := do
  let s ← v.asString "strings.repeat"
  let n := (← count.asInt "strings.repeat").toInt
  if n < 0 then throw (.type .negativeCount)
  if s.utf8ByteSize * n.toNat > maxGenerated then throw (.tooLarge "strings.repeat" maxGenerated)
  if s.isEmpty then return str ""
  return str (String.join (List.replicate n.toNat s))

def reverseText (v : Value) : Result Value := do
  return str (String.ofList (← v.asString "strings.reverse").toList.reverse)

def hasPrefix (v lead : Value) : Result Value := do
  let s ← v.asString "strings.has_prefix"
  let l ← lead.asString "strings.has_prefix"
  return bool (l.toList.isPrefixOf s.toList)

def recase (name : String) (separator : Char) (v : Value) : Result Value := do
  let s ← v.asString name
  return str (String.ofList (Text.join [separator] (Text.caseWords s.toList)))

/-- A power with an exponent that is not negative. Exponents above 64 with the same parity give the
same answer, as all powers but those of -1, 0 and 1 are then out of range. -/
def pow (base exponent : Value) : Result Value := do
  let b := (← base.asInt "math.pow").toInt
  let e := (← exponent.asInt "math.pow").toInt
  if e < 0 ∨ 0x100000000 ≤ e then throw (.type .badExponent)
  let n := e.toNat
  ofInt (Int.pow b (if n < 64 then n else 64 + n % 2))

def clamp : Native where
  name := "math.clamp"
  type := .fixed [.int, .int, .int]
  run := fun _ args =>
    match args with
    | [v, low, high] => do
      let n ← v.asInt "math.clamp"
      let l ← low.asInt "math.clamp"
      let h ← high.asInt "math.clamp"
      if h < l then throw (.type (.emptyInterval l h))
      return int (if n < l then l else if h < n then h else n)
    | _ => .error (.type .missingArgument)

def firstItem (v : Value) : Result Value := do
  match (← v.asList "list.first").head? with
  | some w => return w
  | none => throw (.index 0 0)

def lastItem (v : Value) : Result Value := do
  match (← v.asList "list.last").getLast? with
  | some w => return w
  | none => throw (.index (-1) 0)

def reverseItems (v : Value) : Result Value := do
  return list (← v.asList "list.reverse").reverse

def concat : Native where
  name := "list.concat"
  type := .variadicOf [.any]
  run := fun _ args => do return list (← args.mapM (·.asList "list.concat")).flatten

def tree : List (String × Entry Native) := [
  ("list", .group [
    ("concat", .function concat),
    ("first", .function (.ofUnary "list.first" .any firstItem)),
    ("last", .function (.ofUnary "list.last" .any lastItem)),
    ("reverse", .function (.ofUnary "list.reverse" .any reverseItems))]),
  ("math", .group [
    ("clamp", .function clamp),
    ("pow", .function (.ofBinary "math.pow" .int .int fun _ => pow))]),
  ("strings", .group [
    ("case", .group [
      ("kebab", .function (.ofUnary "strings.case.kebab" .string
        (recase "strings.case.kebab" '-'))),
      ("snake", .function (.ofUnary "strings.case.snake" .string
        (recase "strings.case.snake" '_')))]),
    ("has_prefix", .function (.ofBinary "strings.has_prefix" .string .string fun _ => hasPrefix)),
    ("repeat", .function (.ofBinary "strings.repeat" .string .int fun _ => repeatText)),
    ("reverse", .function (.ofUnary "strings.reverse" .string reverseText))])]

def find? (path : String) : Option (Entry Native) := Entry.at? tree (Text.segments path)

end Library

end Tether
