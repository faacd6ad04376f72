import Tether.History.File

/-! The history: submitted lines, oldest first, no line twice, with or without a file. What is
read from a file is taken as it is. -/
namespace Tether

structure History where
  entries : List HistoryEntry
  file : Option HistoryFile

inductive HistoryError where
  | outOfBounds (index length : Nat)
  | io (path : String) (cause : FileError)

def HistoryError.message : HistoryError → String
  | .outOfBounds i n =>
    "history index " ++ toString i ++ " out of bounds (length " ++ toString n ++ ")"
  | .io path cause => "history file " ++ path ++ ": " ++ cause.message

namespace History

def inMemory : History := ⟨[], none⟩

/-- The history of a file; one that cannot be read has no entries. -/
def opened (f : HistoryFile) : History := ⟨(f.state.text?.map HistoryEntry.ofText).getD [], some f⟩

def reopen (h : History) : History := (h.file.map opened).getD inMemory

def length (h : History) : Nat := h.entries.length

def get (h : History) (i : Nat) : Except HistoryError HistoryEntry :=
  match h.entries[i]? with
  | some e => .ok e
  | none => .error (.outOfBounds i h.length)

/-- Changes the file, if there is one; entries are kept even if that fails. -/
def save (h : History) (change : FileState → Except FileError FileState) :
    History × Option HistoryError :=
  match h.file with
  | none => (h, none)
  | some f =>
    match change f.state with
    | .ok s => ({ h with file := some ⟨f.path, s⟩ }, none)
    | .error e => (h, some (.io f.path e))

/-- Adds a line, without the white space around it. The newest entry is not repeated, an older one
moves to the end and the file is written anew, and any other is appended to the file. -/
def write (h : History) (line : String) (mode : Mode) : History × Option HistoryError :=
  let line := Text.trimString line
  let entry : HistoryEntry := ⟨mode, line⟩
  if line.isEmpty || h.entries.getLast? == some entry then (h, none)
  else if h.entries.contains entry then
    let entries := h.entries.erase entry ++ [entry]
    { h with entries := entries }.save (·.replace (HistoryEntry.records entries))
  else { h with entries := h.entries ++ [entry] }.save (·.append entry.record)

def has (h : History) (filter : Option Mode) (i : Nat) : Bool :=
  match h.entries[i]? with
  | some e => filter.all (· == e.mode)
  | none => false

def prev? (h : History) (start : Nat) (filter : Option Mode) : Option Nat :=
  (List.range (min start h.length)).reverse.find? (h.has filter)

def next? (h : History) (start : Nat) (filter : Option Mode) : Option Nat :=
  (List.range h.length).find? fun i => start < i && h.has filter i

end History

end Tether
