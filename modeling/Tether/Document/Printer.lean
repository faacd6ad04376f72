import Tether.Document.Basic

/-! Documents written in one canonical layout, a binding or a brace a line. -/
namespace Tether

def Param.text (p : Param) : List Char :=
  if p.variadic then '.' :: '.' :: '.' :: p.name.toList else p.name.toList

def headText (name : String) (params : List Param) : List Char :=
  name.toList ++ params.flatMap fun p => ' ' :: p.text

def indent (depth : Nat) : List Char := List.replicate (2 * depth) ' '

mutual

def Binding.lines (depth : Nat) : Binding → List (List Char)
  | .leaf name params source =>
    [indent depth ++ headText name params ++ [' ', '=', ' '] ++ source.text.toList]
  | .block name [] => [indent depth ++ name.toList ++ [' ', '\x7b', '\x7d']]
  | .block name (e :: es) =>
    (indent depth ++ name.toList ++ [' ', '\x7b']) ::
      (e.lines (depth + 1) ++ linesOf (depth + 1) es ++ [indent depth ++ ['\x7d']])

def linesOf (depth : Nat) : List Binding → List (List Char)
  | [] => []
  | b :: bs => b.lines depth ++ linesOf depth bs

end

def Document.source (d : Document) : String :=
  String.ofList ((linesOf 0 d.bindings).flatMap (· ++ ['\n']))

end Tether
