import Tether.Text.Offset
import Tether.Unicode.Letter

/-! Lines, words and parts of a text. -/
namespace Tether.Text
open Unicode (isWhite)

/-- The lines of a text: a line ends at a line feed, and a carriage return right before it is
part of the ending. Text after the last line feed is a line if there is any. -/
def lines : List Char → List (List Char)
  | [] => []
  | '\n' :: cs => [] :: lines cs
  | '\r' :: '\n' :: cs => [] :: lines cs
  | c :: cs =>
    match lines cs with
    | [] => [[c]]
    | l :: ls => (c :: l) :: ls

def trimStart (cs : List Char) : List Char := cs.dropWhile isWhite

def trimEnd (cs : List Char) : List Char := dropEnd isWhite cs

def trim (cs : List Char) : List Char := trimEnd (trimStart cs)

/-- The maximal runs of characters that are not white, after the run that `cur` holds in reverse. -/
def wordsFrom (cur : List Char) : List Char → List (List Char)
  | [] => if cur.isEmpty then [] else [cur.reverse]
  | c :: cs =>
    if isWhite c then
      if cur.isEmpty then wordsFrom [] cs else cur.reverse :: wordsFrom [] cs
    else wordsFrom (c :: cur) cs

def words (cs : List Char) : List (List Char) := wordsFrom [] cs

def splitOnce? (c : Char) : List Char → Option (List Char × List Char)
  | [] => none
  | d :: ds => if d = c then some ([], ds) else (splitOnce? c ds).map fun (a, b) => (d :: a, b)

/-- The parts between the leftmost separators that do not overlap, after the finished parts `done`
and the characters `part` of the next one, both newest first, when so many characters of a separator
are still to pass. -/
def partsFrom (sep : List Char) (done : List (List Char)) (part : List Char) :
    Nat → List Char → List (List Char)
  | _, [] => (part.reverse :: done).reverse
  | n + 1, _ :: cs => partsFrom sep done part n cs
  | 0, c :: cs =>
    if sep.isPrefixOf (c :: cs) then
      partsFrom sep (part.reverse :: done) [] (sep.length - 1) cs
    else partsFrom sep done (c :: part) 0 cs

def parts (sep cs : List Char) : List (List Char) := partsFrom sep [] [] 0 cs

def occurs (part : List Char) : List Char → Bool
  | [] => part.isEmpty
  | c :: cs => part.isPrefixOf (c :: cs) || occurs part cs

def join (sep : List Char) : List (List Char) → List Char
  | [] => []
  | p :: ps => p ++ ps.flatMap (sep ++ ·)

def after? : List Char → List Char → Option (List Char)
  | [], cs => some cs
  | _ :: _, [] => none
  | l :: ls, c :: cs => if l = c then after? ls cs else none

def before? (tail cs : List Char) : Option (List Char) :=
  (after? tail.reverse cs.reverse).map List.reverse

/-- The segments of a dotted path; the empty text has one empty segment. -/
def segments (s : String) : List String := (parts ['.'] s.toList).map String.ofList

def dotted (segs : List String) : String := String.ofList (join ['.'] (segs.map String.toList))

def trimString (s : String) : String := String.ofList (trim s.toList)

def joinStrings (sep : String) (ss : List String) : String :=
  String.ofList (join sep.toList (ss.map String.toList))

end Tether.Text
