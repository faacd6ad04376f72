import Tether.Document.Printer
import Tether.Native.Builtin
import Tether.Native.Library

/-! The parameters of a call as hints show them. -/
namespace Tether.Complete

/-- A callable with the names of its parameters; that of a variadic one begins with three dots. -/
structure Signature where
  name : String
  params : List String
  deriving DecidableEq, Repr

namespace Signature

def display (s : Signature) : String := s.name ++ "(" ++ Text.joinStrings ", " s.params ++ ")"

def isVariadic (param : String) : Bool := ['.', '.', '.'].isPrefixOf param.toList

/-- The parameter that an argument belongs to. A variadic last one takes all that are left. -/
def active? (s : Signature) (argument : Nat) : Option Nat :=
  let last := s.params.length - 1
  match s.params.getLast? with
  | none => none
  | some p =>
    if last ≤ argument && isVariadic p then some last
    else if argument < s.params.length then some argument
    else none

def betterNames : List ((String × Nat) × String) := [
  (("filter", 0), "array"), (("filter", 1), "predicate"), (("map", 0), "array"),
  (("map", 1), "mapper"), (("join", 0), "array"), (("join", 1), "separator"),
  (("split", 1), "separator"), (("all", 0), "array"), (("all", 1), "predicate"),
  (("any", 0), "array"), (("any", 1), "predicate"), (("sum", 0), "array"),
  (("contains", 0), "haystack"), (("contains", 1), "needle")]

def paramNames (name : String) (t : FnType) : List String :=
  t.params.zipIdx.map fun (kind, i) =>
    let label := (betterNames.lookup (name, i)).getD kind.generic
    if t.variadic && i = t.params.length - 1 then "..." ++ label else label

def ofNative (name : String) (t : FnType) : Signature := ⟨name, paramNames name t⟩

def ofBinding? (d : Document) (name : String) : Option Signature :=
  match d.resolve? (Text.segments name) with
  | some (.leaf _ params _) => some ⟨name, params.map fun p => String.ofList p.text⟩
  | _ => none

def ofBuiltin? (name : String) : Option Signature :=
  (Builtin.find? name).map fun f => ofNative name f.type

def ofLibrary? (name : String) : Option Signature :=
  match Library.find? name with
  | some (.function f) => some (ofNative name f.type)
  | _ => none

abbrev Table := List (String × Signature)

def builtinTable : Table := Builtin.table.map fun f => (f.name, ofNative f.name f.type)

def libraryTable : Table :=
  (Entry.functions Library.tree).map fun (path, f) => (path, ofNative path f.type)

/-- The tables made so far; each is made when it is first needed. -/
structure Cache where
  builtins : Option Table
  library : Option Table

namespace Cache

def empty : Cache := ⟨none, none⟩

def isBuilt (c : Cache) : Bool := c.builtins.isSome && c.library.isSome

def withBuiltins (c : Cache) : Table × Cache :=
  let t := c.builtins.getD builtinTable
  (t, { c with builtins := some t })

def withLibrary (c : Cache) : Table × Cache :=
  let t := c.library.getD libraryTable
  (t, { c with library := some t })

/-- The signature of a name: a binding's, else a builtin's, else one of the library. -/
def find? (c : Cache) (d : Document) (name : String) : Option Signature × Cache :=
  match ofBinding? d name with
  | some s => (some s, c)
  | none =>
    let (builtins, c) := c.withBuiltins
    match builtins.lookup name with
    | some s => (some s, c)
    | none =>
      match ofBuiltin? name with
      | some s => (some s, c)
      | none =>
        let (library, c) := c.withLibrary
        match library.lookup name with
        | some s => (some s, c)
        | none => (ofLibrary? name, c)

end Cache

end Signature

end Tether.Complete
