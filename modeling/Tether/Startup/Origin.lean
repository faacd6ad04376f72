import Tether.Document.Reader
import Tether.Editing.Failure
import Tether.Eval.Evaluator

/-! Where the program is read from, and what reading makes of it: a document whose plain bindings
all have a value, or the reason why there is none. -/
namespace Tether

inductive Origin where
  | file (path : String)
  | input
  deriving DecidableEq, Repr

namespace Origin

/-- A hyphen stands for the standard input. -/
def ofArgument (arg : String) : Origin := if arg = "-" then .input else .file arg

def path : Origin → String
  | .file p => p
  | .input => "-"

def lastStep? (path : List Char) : Option (List Char) :=
  let steps := (Text.parts ['/'] path).filter fun p => p != [] && p != ['.']
  steps.getLast?.filter (· != ['.', '.'])

/-- The short name for the status line: the file's own name, if the path has one. -/
def displayName : Origin → String
  | .input => "<stdin>"
  | .file p => String.ofList ((lastStep? p.toList).getD p.toList)

end Origin

/-- The document in what was read, where the error is what the system says of a failure to read. -/
def Document.load (origin : Origin) (read : Except String ByteArray) : Except Failure Document := do
  let bytes ← read.mapError (Failure.unreadable origin.path)
  let text ← match String.fromUTF8? bytes with
    | some text => .ok text
    | none => .error (.unreadable origin.path "stream did not contain valid UTF-8")
  let d ← (Document.parse text).mapError Failure.badSource
  d.validate.mapError Failure.invalid
  return d

end Tether
