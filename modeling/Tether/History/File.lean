import Tether.History.Entry

/-! The file that keeps a history. -/
namespace Tether

inductive FileState where
  | missing
  | text (content : List Char)
  /-- Bytes that are no UTF-8 text. As all that is ever appended begins with an ASCII letter, they
  do not become text by it. -/
  | binary (content : ByteArray)
  | directory

inductive FileError where
  | isDirectory
  deriving DecidableEq, Repr

def FileError.message : FileError → String
  | .isDirectory => "Is a directory (os error 21)"

namespace FileState

def text? : FileState → Option (List Char)
  | text cs => some cs
  | _ => none

def append (cs : List Char) : FileState → Except FileError FileState
  | missing => .ok (text cs)
  | text old => .ok (text (old ++ cs))
  | binary old => .ok (binary (old ++ (String.ofList cs).toUTF8))
  | directory => .error .isDirectory

def replace (cs : List Char) : FileState → Except FileError FileState
  | directory => .error .isDirectory
  | _ => .ok (text cs)

end FileState

structure HistoryFile where
  path : String
  state : FileState

end Tether
