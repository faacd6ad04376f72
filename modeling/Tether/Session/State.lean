import Tether.Complete.Call
import Tether.Complete.Ranking
import Tether.Complete.Signature
import Tether.History.Log
import Tether.Line.Input
import Tether.Session.Transcript

/-! The state of a session: the document, the input with what is offered for it, and the history.
`refresh` makes the offers those of the input. -/
namespace Tether
open Complete

structure Snapshot where
  text : List Char
  cursor : Nat
  deriving DecidableEq, Repr

def Snapshot.empty : Snapshot := ⟨[], 0⟩

namespace Input

def snapshot (i : Input) : Snapshot := ⟨i.value, i.cursor⟩

def restore (i : Input) (s : Snapshot) : Input := i.set s.text s.cursor

end Input

/-- Going through the offers for a word, which stands between `start` and `stop` in the input that
was there before. -/
structure TabCycle where
  before : Snapshot
  start : Nat
  stop : Nat
  selected : Nat

/-- Going through the commands of the history from any mode. -/
structure CommandBrowse where
  mode : Mode
  before : Snapshot
  index : Nat

structure ActiveCall where
  signature : Signature
  argument : Nat
  deriving DecidableEq, Repr

structure Session where
  document : Document
  history : History
  signatures : Signature.Cache
  matcher : Matcher
  mode : Mode
  input : Input
  /-- The inputs put aside when the mode was left. -/
  parkedEval : Snapshot
  parkedCommand : Snapshot
  tab : Option TabCycle
  browse : Option CommandBrowse
  width : Nat
  candidates : List Candidate
  offers : List Match
  /-- The positions of the word the offers are for. -/
  word : Nat × Nat
  call : Option ActiveCall
  /-- The entry shown, or the length of the history for input of one's own. -/
  index : Nat
  /-- The mode and the input from before the history was browsed. -/
  live : Option (Mode × Snapshot)
  transcript : List TranscriptEntry
  name : String

namespace Session

def initial (d : Document) (h : History) (name : String) (width : Nat) (matcher : Matcher) :
    Session where
  document := d
  history := h
  signatures := .empty
  matcher := matcher
  mode := .eval
  input := .new
  parkedEval := .empty
  parkedCommand := .empty
  tab := none
  browse := none
  width := width
  candidates := []
  offers := []
  word := (0, 0)
  call := none
  index := h.length
  live := none
  transcript := []
  name := name

def offersFor (matcher : Matcher) (d : Document) (mode : Mode) (cs : List Char) (w : Word) :
    List Candidate × List Match :=
  match mode with
  | .command => (commandCandidates, rankCommands matcher w.text)
  | .eval =>
    let parent := parentPath cs w.start
    let candidates := Candidate.under d (String.ofList parent)
    (candidates, Match.rank matcher w.text parent candidates)

def equalIgnoringCase (a b : List Char) : Bool := a.map Char.toLower = b.map Char.toLower

def confirmed? (w : Word) : List Match → Option (List Char)
  | [m] => if equalIgnoringCase m.name.toList w.text then some m.name.toList else none
  | _ => none

def callAt (d : Document) (cache : Signature.Cache) (mode : Mode) (i : Input) :
    Option ActiveCall × Signature.Cache :=
  match mode with
  | .command => (none, cache)
  | .eval =>
    match callAt? i.value i.cursor with
    | none => (none, cache)
    | some site =>
      let (signature, cache) := cache.find? d (String.ofList site.name)
      (signature.map fun s => ⟨s, site.argument⟩, cache)

def refreshCall (s : Session) : Session :=
  let (call, cache) := callAt s.document s.signatures s.mode s.input
  { s with call := call, signatures := cache }

/-- Makes the word, the offers and the call those of the input. With `confirm`, the only offer takes
the place of the word if it is the same but for ASCII case, and nothing more is offered. -/
def refresh (s : Session) (confirm : Bool) : Session :=
  let w := wordAt s.input.value s.input.cursor
  let (candidates, offers) := offersFor s.matcher s.document s.mode s.input.value w
  let s := { s with candidates := candidates, offers := offers, word := (w.start, w.stop) }
  match (if confirm then confirmed? w offers else none) with
  | none => s.refreshCall
  | some name =>
    let input :=
      if name = w.text then s.input else (s.input.replace? w.start w.stop name).getD s.input
    let word := (w.start, w.start + Text.bytes name)
    { s with input := input, offers := [], word := word }.refreshCall

def stopBrowsing (s : Session) : Session := { s with index := s.history.length, live := none }

def showLine (s : Session) (line : String) : Session :=
  { s with input := s.input.setEnd line.toList }.refresh false

def parked (s : Session) : Mode → Snapshot
  | .eval => s.parkedEval
  | .command => s.parkedCommand

def park (s : Session) (mode : Mode) (p : Snapshot) : Session :=
  match mode with
  | .eval => { s with parkedEval := p }
  | .command => { s with parkedCommand := p }

/-- Goes to a mode, puts the input aside for the one that is left, and takes back the input that
was put aside for the new one. -/
def switchMode (s : Session) (mode : Mode) : Session :=
  if mode = s.mode then s
  else
    let back := s.parked mode
    let s := (s.park s.mode s.input.snapshot).park mode .empty
    ({ s with mode := mode, input := s.input.restore back }.stopBrowsing).refresh false

end Session

end Tether
