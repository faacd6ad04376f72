import Tether.Document.Reader
import Tether.Eval.Evaluator

/-! Why the program does not start or an edit does not succeed. -/
namespace Tether

inductive Failure where
  | noSource
  | unreadable (path cause : String)
  | invalid (error : ValidationError)
  | badSource (error : ParseError)
  | declined
  | io (cause : String)

def Failure.message : Failure → String
  | .noSource => "no source given: pass a file path, or `-` to read from stdin"
  | .unreadable path cause => "could not read " ++ path ++ ": " ++ cause
  | .invalid e => e.message
  | .badSource e => "parse error: " ++ e.message
  | .declined => "edit declined; bindings left unchanged"
  | .io cause => cause

end Tether
