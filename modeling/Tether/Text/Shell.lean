/-! A command line split into words as a shell does. Blanks separate words, `#` at the start of a
word begins a comment, a backslash quotes the next character, single quotes all up to the next one,
and double quotes all but a few characters after a backslash. -/
namespace Tether.Text

inductive Quoting where
  | between | comment | bare | escaped | single | double | doubleEscaped
  deriving DecidableEq, Repr

/-- The place in the line, the reverse of the open word, and the finished words, newest first. -/
structure ShellState where
  quoting : Quoting
  word : List Char
  words : List (List Char)

namespace ShellState

def isBlank (c : Char) : Bool := c = ' ' || c = '\t' || c = '\n'

def add (s : ShellState) (q : Quoting) (cs : List Char) : ShellState :=
  { s with quoting := q, word := cs ++ s.word }

def bare (s : ShellState) (c : Char) : ShellState :=
  if c = '"' then s.add .double []
  else if c = '\'' then s.add .single []
  else if c = '\\' then s.add .escaped []
  else if isBlank c then ⟨.between, [], s.word.reverse :: s.words⟩
  else s.add .bare [c]

def step (s : ShellState) (c : Char) : ShellState :=
  match s.quoting with
  | .between =>
    if isBlank c then s else if c = '#' then { s with quoting := .comment } else s.bare c
  | .comment => if c = '\n' then { s with quoting := .between } else s
  | .bare => s.bare c
  | .escaped => s.add .bare (if c = '\n' then [] else [c])
  | .single => if c = '\'' then s.add .bare [] else s.add .single [c]
  | .double =>
    if c = '"' then s.add .bare []
    else if c = '\\' then s.add .doubleEscaped [] else s.add .double [c]
  | .doubleEscaped =>
    if c = '\n' then s.add .double []
    else if c = '$' || c.toNat = 0x60 || c = '"' || c = '\\' then s.add .double [c]
    else s.add .double [c, '\\']

/-- The words at the end of the line; no quote may be open there. -/
def finish? (s : ShellState) : Option (List (List Char)) :=
  match s.quoting with
  | .between | .comment => some s.words.reverse
  | .bare => some (s.word.reverse :: s.words).reverse
  | _ => none

end ShellState

def shellWords? (cs : List Char) : Option (List (List Char)) :=
  (cs.foldl ShellState.step ⟨.between, [], []⟩).finish?

end Tether.Text
