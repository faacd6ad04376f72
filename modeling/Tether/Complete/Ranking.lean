import Tether.Complete.Candidate
import Tether.Text.Offset

/-! Candidates that match a word, in the order in which they are offered: by kind, then by score,
then as they came. The search is a parameter. -/
namespace Tether.Complete

/-- Finds a word in a name: a score and the numbers of the matched characters. -/
abbrev Matcher := List Char → List Char → Option (Int × List Nat)

structure Match where
  candidate : Candidate
  score : Int
  /-- The byte offsets of the matched characters. -/
  positions : List Nat
  deriving Repr

def Match.name (m : Match) : String := m.candidate.name

/-- The byte offsets of the characters with the given numbers, where `n` is the number and
`start` the offset of the first one. -/
def bytePositions (numbers : List Nat) (n start : Nat) : List Char → List Nat
  | [] => []
  | c :: cs =>
    let rest := bytePositions numbers (n + 1) (start + c.utf8Size) cs
    if numbers.contains n then start :: rest else rest

namespace Match

def unscored (c : Candidate) : Match := ⟨c, 0, []⟩

def of? (matcher : Matcher) (word : List Char) (c : Candidate) : Option Match :=
  (matcher c.name.toList word).map fun (score, numbers) =>
    ⟨c, score, bytePositions numbers 0 0 c.name.toList⟩

def byPriority (ms : List Match) : List Match :=
  ms.mergeSort fun a b => a.candidate.kind.priority ≤ b.candidate.kind.priority

/-- The candidates that match a word, the best first; none match the empty word. -/
def search (matcher : Matcher) (word : List Char) (cs : List Candidate) : List Match :=
  if word.isEmpty then []
  else (cs.filterMap (of? matcher word)).mergeSort fun a b => b.score ≤ a.score

/-- What is offered for a word after a parent path: for the empty word after a path that is not
empty, all candidates. -/
def rank (matcher : Matcher) (word parent : List Char) (cs : List Candidate) : List Match :=
  byPriority (if word.isEmpty && !parent.isEmpty then cs.map unscored else search matcher word cs)

end Match

def commandNames : List String := ["help", "list", "edit", "clear", "quit"]

def commandCandidates : List Candidate := commandNames.map fun n => ⟨n, .builtin, false⟩

def rankCommands (matcher : Matcher) (word : List Char) : List Match :=
  Match.search matcher word commandCandidates

end Tether.Complete
