import Tether.Line.Editor

/-! An input line: a text and the editor on it. -/
namespace Tether
open Line Text

inductive Change where
  | none | moved | inserted | deleted
  deriving DecidableEq, Repr

structure Input where
  value : List Char
  editor : Editor
  deriving DecidableEq, Repr

namespace Input

def new : Input := ⟨[], .new⟩

def cursor (i : Input) : Nat := i.editor.cursor

def string (i : Input) : String := String.ofList i.value

/-- Takes a text, with the cursor at the last position at or before an offset. -/
def set (i : Input) (value : List Char) (cursor : Nat) : Input :=
  ⟨value, i.editor.place value cursor⟩

def setEnd (i : Input) (value : List Char) : Input := i.set value (bytes value)

def clear (i : Input) : Input := ⟨[], i.editor.reset⟩

def replace? (i : Input) (start stop : Nat) (text : List Char) : Option Input :=
  (splice? i.value start stop text).map fun value => i.set value (start + bytes text)

def press? (i : Input) (k : Key) : Option (Input × Change × Option Action) := do
  let o ← i.editor.press? i.value k
  match o.edit with
  | some e =>
    let value ← e.apply? i.value
    let change := match e with
      | .delete .. => Change.deleted
      | .insert .. => Change.inserted
    some (⟨value, o.editor⟩, change, o.action)
  | none =>
    let change := if o.editor.cursor = i.cursor then Change.none else .moved
    some (⟨i.value, o.editor⟩, change, o.action)

end Input

end Tether
