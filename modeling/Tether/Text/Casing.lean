import Tether.Unicode.Case

/-! The words of a name written in one of the usual case styles. -/
namespace Tether.Text

def isWordSeparator (c : Char) : Bool := c = ' ' || c = '-' || c = '_'

def closeWord (done : List (List Char)) (word : List Char) : List (List Char) :=
  if word.isEmpty then done else word.reverse :: done

/-- The words in lower case, after the finished ones, newest first, and the reverse of the open
one. A word ends at a separator and before a capital that follows a small letter or a digit. -/
def caseWordsFrom (done : List (List Char)) (word : List Char) (afterSmall : Bool) :
    List Char → List (List Char)
  | [] => (closeWord done word).reverse
  | c :: cs =>
    if isWordSeparator c then caseWordsFrom (closeWord done word) [] false cs
    else
      let small := (Unicode.lowerChar c).reverse
      let afterSmall' := Unicode.isLowercase c || c.isDigit
      if Unicode.isUppercase c && afterSmall then
        caseWordsFrom (closeWord done word) small afterSmall' cs
      else caseWordsFrom done (small ++ word) afterSmall' cs

def caseWords (cs : List Char) : List (List Char) := caseWordsFrom [] [] false cs

end Tether.Text
