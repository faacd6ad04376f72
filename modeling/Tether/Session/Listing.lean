import Tether.Document.Basic

/-! The list of all bindings of a document: a line for each leaf and each empty block. -/
namespace Tether

def Param.listed (p : Param) : String := if p.variadic then "..." ++ p.name else p.name

def signatureText (path : String) (ps : List Param) : String :=
  path ++ "(" ++ Text.joinStrings ", " (ps.map Param.listed) ++ ")"

mutual

def Binding.listing (path : List String) : Binding → List String
  | .leaf n [] _ => [Text.dotted (path ++ [n])]
  | .leaf n (p :: ps) _ => [signatureText (Text.dotted (path ++ [n])) (p :: ps)]
  | .block n [] => [Text.dotted (path ++ [n])]
  | .block n (e :: es) => e.listing (path ++ [n]) ++ listingOf (path ++ [n]) es

def listingOf (path : List String) : List Binding → List String
  | [] => []
  | b :: bs => b.listing path ++ listingOf path bs

end

/-- Blocks stand as the paths of what is in them. -/
def Document.listing (d : Document) : List String := listingOf [] d.bindings

end Tether
