import Tether.Document.Basic
import Tether.Native.Builtin
import Tether.Native.Library

/-! The names that can follow a dotted path. -/
namespace Tether.Complete

inductive CandidateKind where
  | value | function | builtin
  deriving DecidableEq, Repr

/-- Values come before functions, and those before builtins. -/
def CandidateKind.priority : CandidateKind → Nat
  | .value => 0
  | .function => 1
  | .builtin => 2

structure Candidate where
  name : String
  kind : CandidateKind
  callable : Bool
  deriving DecidableEq, Repr

namespace Candidate

def ofBinding (b : Binding) : Candidate :=
  ⟨b.name, if b.isFunction then .function else .value, b.isFunction⟩

def ofEntry : String × Entry Native → Candidate
  | (name, .function _) => ⟨name, .builtin, true⟩
  | (name, .group _) => ⟨name, .builtin, false⟩

def ofNative (f : Native) : Candidate := ⟨f.name, .builtin, true⟩

def firstOfName (known : List String) : List Candidate → List Candidate
  | [] => []
  | c :: cs =>
    if known.contains c.name then firstOfName known cs
    else c :: firstOfName (c.name :: known) cs

/-- The names that can begin a path: those of the document hide the others. -/
def topLevel (d : Document) : List Candidate :=
  firstOfName [] (d.bindings.map ofBinding ++ Builtin.table.map ofNative ++
    Library.tree.map ofEntry)

/-- The names that can follow `parent`: those of a block of the document, else of a namespace of
the library. -/
def under (d : Document) (parent : String) : List Candidate :=
  if parent.isEmpty then topLevel d
  else match d.resolve? (Text.segments parent) with
    | some (.block _ es) => es.map ofBinding
    | _ =>
      match Library.find? parent with
      | some (.group es) => es.map ofEntry
      | _ => []

end Candidate

end Tether.Complete
