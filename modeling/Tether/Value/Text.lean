import Tether.Number.Decimal
import Tether.Text.Quoted
import Tether.Value.Basic

/-! Values as text. -/
namespace Tether.Value

mutual

/-- Writes a value after the text `out`, which has its last character first. -/
def write (out : List Char) : Value → List Char
  | int n => (Number.intText n.toInt).reverse ++ out
  | float x => (Number.floatText x).reverse ++ out
  | str s => (Text.quoted s.toList).reverse ++ out
  | bool b => (if b then ['e', 'u', 'r', 't'] else ['e', 's', 'l', 'a', 'f']) ++ out
  | list vs => ']' :: writeItems true ('[' :: out) vs
  | record fs => '\x7d' :: writeFields true ('\x7b' :: out) fs
  | func f => '>' :: f.name.toList.reverse ++ [' ', 'n', 'f', '<'] ++ out

/-- Commas stand between items, not before the first one. -/
def writeItems (isFirst : Bool) (out : List Char) : List Value → List Char
  | [] => out
  | v :: vs => writeItems false (v.write (if isFirst then out else ' ' :: ',' :: out)) vs

def writeFields (isFirst : Bool) (out : List Char) : List (String × Value) → List Char
  | [] => out
  | (name, v) :: fs =>
    let out := if isFirst then out else ' ' :: ',' :: out
    writeFields false (v.write (' ' :: '=' :: ' ' :: name.toList.reverse ++ out)) fs

end

/-- The text of a value; strings are quoted. -/
def text (v : Value) : String := String.ofList (v.write []).reverse

/-- The text of a value; a string is its own text. -/
def plainText : Value → String
  | str s => s
  | v => v.text

end Tether.Value
