import Tether.Text.Quoted
import Tether.Text.Shell
import Tether.Text.Split

/-! The editor program that a setting names. -/
namespace Tether

structure EditorCommand where
  program : String
  args : List String
  deriving DecidableEq, Repr

inductive ExitStatus where
  | code (n : Nat)
  | signal (n : Nat) (name : String)
  deriving DecidableEq, Repr

def ExitStatus.text : ExitStatus → String
  | code n => "exit status: " ++ toString n
  | signal n name => "signal: " ++ toString n ++ " (" ++ name ++ ")"

namespace EditorCommand

def fallback : EditorCommand := ⟨"vi", []⟩

/-- The command of a setting. Without words, or with a quote left open, it is the fallback. -/
def parse (setting : Option String) : EditorCommand :=
  match (setting.bind fun s => Text.shellWords? s.toList).getD [] with
  | [] => fallback
  | program :: args => ⟨String.ofList program, args.map String.ofList⟩

def quotedString (s : String) : String := String.ofList (Text.quoted s.toList)

def describe (c : EditorCommand) : String :=
  "EditorCommand \x7b program: " ++ quotedString c.program ++ ", args: [" ++
    Text.joinStrings ", " (c.args.map quotedString) ++ "] \x7d"

/-- Starts the program with the path as its last argument, and takes every end but the exit code 0
as a failure. `start` runs a program or tells why it cannot. -/
def launch (start : String → List String → Except String ExitStatus) (c : EditorCommand)
    (path : String) : Except String Unit :=
  match start c.program (c.args ++ [path]) with
  | .error e => .error e
  | .ok (.code 0) => .ok ()
  | .ok s => .error ("editor `" ++ c.program ++ "` exited with " ++ s.text)

end EditorCommand

end Tether
