import Tether.Document.Printer
import Tether.Editing.Failure

/-! Editing a document as text until it can be read, is left blank, or the user gives up. The runs
of the editor and the answers to the questions are given as lists. -/
namespace Tether

inductive EditOutcome where
  | unchanged
  | replaced (document : Document)

inductive Launch where
  | writes (content : String)
  /-- Leaves bytes that are no UTF-8 text. -/
  | garbles
  | leaves
  | fails (cause : String)

abbrev Answer := Except String Bool

/-- How an edit ended, if it did; what the editor found in the file each time; and the errors that
were told. -/
structure EditRun where
  outcome : Option (Except Failure EditOutcome)
  seen : List String
  reported : List ParseError

namespace EditRun

def ends (outcome : Except Failure EditOutcome) : EditRun := ⟨some outcome, [], []⟩

def sees (text : String) (r : EditRun) : EditRun := { r with seen := text :: r.seen }

def reports (e : ParseError) (r : EditRun) : EditRun := { r with reported := e :: r.reported }

end EditRun

def editFrom (text : String) : List Launch → List Answer → EditRun
  | [], _ => ⟨none, [], []⟩
  | launch :: launches, answers =>
    .sees text <|
      match launch with
      | .fails cause => .ends (.error (.io cause))
      | .garbles => .ends (.error (.io "stream did not contain valid UTF-8"))
      | .leaves => decide text launches answers
      | .writes content => decide content launches answers
where
  /-- Looks at what the editor left. -/
  decide (content : String) (launches : List Launch) (answers : List Answer) : EditRun :=
    if (Text.trimString content).isEmpty then .ends (.ok .unchanged)
    else match Document.parse content with
      | .ok d => .ends (.ok (.replaced d))
      | .error e =>
        .reports e <|
          match answers with
          | [] => ⟨none, [], []⟩
          | .error cause :: _ => .ends (.error (.io cause))
          | .ok false :: _ => .ends (.error .declined)
          | .ok true :: answers => editFrom content launches answers

/-- Edits a document, the first text being its canonical layout. -/
def editLoop (d : Document) (launches : List Launch) (answers : List Answer) : EditRun :=
  editFrom d.source launches answers

end Tether
