import Tether.Editing.Loop
import Tether.Session.Browse
import Tether.Session.Listing
import Tether.Value.Text

/-! How a session goes on with a message. What would cut a character in two is `none`. -/
namespace Tether

inductive Message where
  | key (k : Key)
  | resize (width : Nat)
  | edited (result : Except Failure EditOutcome)

/-- What is to be done for a session: leave it, or run the editor and send `Message.edited`. -/
inductive Request where
  | quit | edit
  deriving DecidableEq, Repr

namespace Session

def helpText : String := Text.joinStrings "\n" [
  "Commands (type `:` on an empty line, or Ctrl+T):",
  "  help    show this message",
  "  list    list every binding",
  "  edit    edit the bindings in $EDITOR",
  "  clear   clear the transcript",
  "  quit    leave the session",
  "Keys:",
  "  Tab / Shift+Tab      cycle completions (Esc restores)",
  "  Up / Down            history, all modes",
  "  Ctrl+Up / Ctrl+Down  history, current mode only (also Ctrl+P / Ctrl+N)",
  "  Alt+Up / Alt+Down    browse command history from any mode",
  "  Ctrl+C               clear input, or quit on an empty line",
  "  Ctrl+D               quit on an empty line",
  "  Ctrl+L               clear the transcript"]

def say (s : Session) (e : TranscriptEntry) : Session :=
  { s with transcript := s.transcript ++ [e] }

def evaluate (s : Session) (line : String) : Session :=
  let e := TranscriptEntry.line .eval line
  s.say (match s.document.evaluate line with
    | .ok v => e.withOutput v.text
    | .error err => e.withError err.message)

def obey (s : Session) (line : String) : Session × List Request :=
  let e := TranscriptEntry.line .command line
  let (s, requests) := match line with
    | "help" => (s.say (e.withOutput helpText), [])
    | "list" =>
      let lines := s.document.listing
      (s.say (e.withOutput
        (if lines.isEmpty then "(no bindings)" else Text.joinStrings "\n" lines)), [])
    | "edit" => (s.say e, [Request.edit])
    | "clear" => ({ s with transcript := [] }, [])
    | "quit" => (s, [Request.quit])
    | other => (s.say (e.withError ("unknown command `" ++ other ++ "`; try `help`")), [])
  (s.switchMode .eval, requests)

/-- Keeps a line in the history, runs it in its mode, and tells if it could not be saved. -/
def runLine (s : Session) (line : String) : Session × List Request :=
  let (history, error) := s.history.write line s.mode
  let s := { s with history := history }
  let (s, requests) := match s.mode with
    | .eval => (s.evaluate line, [])
    | .command => s.obey line
  match error with
  | none => (s, requests)
  | some e => (s.say (.failure ("warning: " ++ e.message)), requests)

/-- Takes the input, without the white space around it, as a line to run. -/
def submit (s : Session) : Session × List Request :=
  let line := Text.trimString s.input.string
  let s := { s with input := s.input.clear, live := none }
  let (s, requests) := if line.isEmpty then (s, []) else s.runLine line
  ({ s with index := s.history.length }.refresh false, requests)

def interrupt (s : Session) : Session × List Request :=
  if s.input.value.isEmpty then (s, [.quit])
  else (({ s with input := s.input.clear }.stopBrowsing).refresh false, [])

def edit? (s : Session) (k : Key) : Option Session := do
  let (input, change, action) ← s.input.press? k
  let s := { s with input := input }
  let s := match change with
    | .inserted => s.stopBrowsing.refresh true
    | .deleted => s.stopBrowsing.refresh false
    | .moved => s.refresh false
    | .none => s
  return if action = some .cancel then { s with offers := [] } else s

/-- What a character or an arrow does with control, if it is not for the input line. -/
def control? (s : Session) (k : Key) : Option (Session × List Request) :=
  match k.code with
  | .char 'c' => some s.interrupt
  | .char 'd' => if s.input.value.isEmpty then some (s, [.quit]) else none
  | .char 'l' => some ({ s with transcript := [] }, [])
  | .char 't' => some (s.switchMode s.mode.toggled, [])
  | .char 'p' | .up => some (s.previous (some s.mode), [])
  | .char 'n' | .down => some (s.following (some s.mode), [])
  | _ => none

def isAltArrow (k : Key) : Bool := k.alt && (k.code = .up || k.code = .down)

/-- What a key without control does, alt arrows apart. -/
def plain? (s : Session) (k : Key) : Option (Session × List Request) :=
  let quiet (s : Session) : Session × List Request := (s, [])
  match k.code with
  | .up => some (quiet (s.previous none))
  | .down => some (quiet (s.following none))
  | .tab => (s.startTab? true).map quiet
  | .backTab => (s.startTab? false).map quiet
  | .enter => some s.submit
  | .char ':' =>
    if k.isPlain && s.mode = .eval && s.input.value.isEmpty then
      some (quiet (s.switchMode .command))
    else (s.edit? k).map quiet
  | .backspace =>
    if k.isPlain && s.mode = .command && s.input.value.isEmpty then
      some (quiet (s.switchMode .eval))
    else (s.edit? k).map quiet
  | .escape =>
    if s.mode = .command then some (quiet (s.switchMode .eval)) else (s.edit? k).map quiet
  | _ => (s.edit? k).map quiet

def pressOutsideTab? (s : Session) (k : Key) : Option (Session × List Request) :=
  let s := if isAltArrow k then s else s.commitBrowse
  match (if k.ctrl then s.control? k else none) with
  | some r => some r
  | none =>
    if isAltArrow k then
      some (if k.code = .up then s.previousCommand else s.followingCommand, [])
    else s.plain? k

def press? (s : Session) (k : Key) : Option (Session × List Request) :=
  if s.tab.isSome then
    match k.code with
    | .tab => (s.cycle? true).map (·, [])
    | .backTab => (s.cycle? false).map (·, [])
    | .escape => some (s.cancelTab, [])
    | _ => s.commitTab.pressOutsideTab? k
  else s.pressOutsideTab? k

def finishEdit (s : Session) (result : Except Failure EditOutcome) : Session :=
  let s := match result with
    | .ok (.replaced d) =>
      let n := toString d.bindings.length
      { s with document := d }.say (match d.validate with
        | .ok _ => .note ("bindings updated (" ++ n ++ " top-level)")
        | .error e => .failure ("bindings updated, but " ++ e.message))
    | .ok .unchanged => s.say (.note "edit cancelled; bindings unchanged")
    | .error .declined => s.say (.note Failure.declined.message)
    | .error e => s.say (.failure ("edit failed: " ++ e.message))
  s.refresh false

def update? (s : Session) : Message → Option (Session × List Request)
  | .key k => s.press? k
  | .resize width => some ({ s with width := width }, [])
  | .edited result => some (s.finishEdit result, [])

def run? (s : Session) : List Message → Option (Session × List Request)
  | [] => some (s, [])
  | m :: ms => do
    let (s, requests) ← s.update? m
    let (s, more) ← s.run? ms
    return (s, requests ++ more)

end Session

end Tether
