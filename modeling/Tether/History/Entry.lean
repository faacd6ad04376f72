import Tether.Text.Split

/-! Submitted lines and their records: the tag of the mode, the line, a line feed. -/
namespace Tether

inductive Mode where
  | eval | command
  deriving DecidableEq, Repr

namespace Mode

def tag : Mode → List Char
  | eval => ['E', ':']
  | command => ['C', ':']

def toggled : Mode → Mode
  | eval => command
  | command => eval

def name : Mode → String
  | eval => "EVAL"
  | command => "COMMAND"

end Mode

structure HistoryEntry where
  mode : Mode
  line : String
  deriving DecidableEq, Repr

namespace HistoryEntry

def record (e : HistoryEntry) : List Char := e.mode.tag ++ e.line.toList ++ ['\n']

/-- The entry of a record without its line feed. A record without a tag is an expression. -/
def ofRecord (cs : List Char) : HistoryEntry :=
  match Text.after? Mode.eval.tag cs with
  | some line => ⟨.eval, String.ofList line⟩
  | none =>
    match Text.after? Mode.command.tag cs with
    | some line => ⟨.command, String.ofList line⟩
    | none => ⟨.eval, String.ofList cs⟩

def records (es : List HistoryEntry) : List Char := es.flatMap record

/-- The entries of a file's text; empty lines do not count. -/
def ofText (cs : List Char) : List HistoryEntry :=
  ((Text.lines cs).filter (!·.isEmpty)).map ofRecord

end HistoryEntry

end Tether
