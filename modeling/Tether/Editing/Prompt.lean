import Tether.Text.Split

/-! The question between two runs of the editor. -/
namespace Tether.Prompt

def question : String := "Edit again? [Y/n] "

def isNo (answer : List Char) : Bool :=
  let word := (Text.trim answer).map Char.toLower
  word = ['n'] || word = ['n', 'o']

/-- The answer that a line of input gives, and the input after it. No input is no; all else but
`n` and `no` is yes. -/
def ask (input : List Char) : Bool × List Char :=
  if input.isEmpty then (false, [])
  else
    let line := input.takeWhile (· ≠ '\n')
    (!isNo line, input.drop (line.length + 1))

end Tether.Prompt
