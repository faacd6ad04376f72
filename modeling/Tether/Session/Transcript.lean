import Tether.History.Entry

/-! What the session has shown so far. -/
namespace Tether

/-- A submitted line with its mode and what came of it; a note has no line. -/
structure TranscriptEntry where
  input : Option (Mode × String)
  output : Option String
  isError : Bool
  deriving DecidableEq, Repr

namespace TranscriptEntry

def line (mode : Mode) (text : String) : TranscriptEntry := ⟨some (mode, text), none, false⟩

def note (text : String) : TranscriptEntry := ⟨none, some text, false⟩

def failure (text : String) : TranscriptEntry := ⟨none, some text, true⟩

def withOutput (e : TranscriptEntry) (text : String) : TranscriptEntry :=
  { e with output := some text }

def withError (e : TranscriptEntry) (text : String) : TranscriptEntry :=
  { e with output := some text, isError := true }

end TranscriptEntry

end Tether
