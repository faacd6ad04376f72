import Tether.Line.Key
import Tether.Text.Split

/-! Editing one line of text. The editor keeps a cursor and the text that was cut last; the text
itself belongs to its host, which applies the edits. What would cut a character in two is `none`. -/
namespace Tether.Line
open Text

inductive Edit where
  | delete (start stop : Nat)
  | insert (start : Nat) (text : List Char)
  deriving DecidableEq, Repr

def Edit.apply? (cs : List Char) : Edit → Option (List Char)
  | delete start stop => splice? cs start stop []
  | insert start text => splice? cs start start text

inductive Action where
  | submit | cancel
  deriving DecidableEq, Repr

inductive Command where
  | insert (c : Char)
  | toStart | toEnd | back | forward | wordBack | wordForward
  | cutToEnd | cutToStart | cutWord | cutWordBack | cutBigWordBack | yank
  | deleteBack | deleteForward
  | act (a : Action)
  deriving DecidableEq, Repr

def Command.ofCtrl : Char → Option Command
  | 'a' => some .toStart
  | 'e' => some .toEnd
  | 'b' => some .back
  | 'f' => some .forward
  | 'k' => some .cutToEnd
  | 'u' => some .cutToStart
  | 'w' => some .cutBigWordBack
  | 'y' => some .yank
  | 'd' => some .deleteForward
  | 'c' => some (.act .cancel)
  | _ => none

def Command.ofAlt : Char → Option Command
  | 'b' => some .wordBack
  | 'f' => some .wordForward
  | 'd' => some .cutWord
  | _ => none

def Command.ofKey (k : Key) : Option Command :=
  match k.code with
  | .char c => if k.ctrl then ofCtrl c else if k.alt then ofAlt c else some (.insert c)
  | .backspace => some (if k.alt then .cutWordBack else .deleteBack)
  | .delete => some .deleteForward
  | .left => some (if k.isPlain then .back else .wordBack)
  | .right => some (if k.isPlain then .forward else .wordForward)
  | .home => some .toStart
  | .end => some .toEnd
  | .enter => some (.act .submit)
  | .escape => some (.act .cancel)
  | _ => none

structure Editor where
  cursor : Nat
  cut : List Char
  deriving DecidableEq, Repr

structure Outcome where
  editor : Editor
  edit : Option Edit
  action : Option Action

namespace Editor

def new : Editor := ⟨0, []⟩

/-- What was cut last is kept. -/
def reset (e : Editor) : Editor := { e with cursor := 0 }

/-- Puts the cursor at the last position at or before an offset. -/
def place (e : Editor) (cs : List Char) (n : Nat) : Editor := { e with cursor := floor cs n }

def isAlnum (c : Char) : Bool := Unicode.isAlphanumeric c

def wordStart? (e : Editor) (cs : List Char) : Option Nat :=
  (splitAt? cs e.cursor).map fun (head, _) => bytes (dropEnd isAlnum (dropEnd (!isAlnum ·) head))

def wordEnd? (e : Editor) (cs : List Char) : Option Nat :=
  (splitAt? cs e.cursor).map fun (_, tail) =>
    let gap := tail.takeWhile (!isAlnum ·)
    let word := (tail.dropWhile (!isAlnum ·)).takeWhile isAlnum
    e.cursor + bytes gap + bytes word

/-- One byte after the start of the last white character before the word before the cursor, or the
start of the text. -/
def bigWordStart? (e : Editor) (cs : List Char) : Option Nat :=
  (splitAt? cs e.cursor).map fun (head, _) =>
    match dropEnd (!Unicode.isWhite ·) (trimEnd head) with
    | [] => 0
    | before => bytes before.dropLast + 1

def moved (e : Editor) (n : Nat) : Outcome := ⟨{ e with cursor := n }, none, none⟩

def still (e : Editor) : Outcome := ⟨e, none, none⟩

def cutOut? (e : Editor) (cs : List Char) (start stop : Nat) : Option Outcome :=
  if stop ≤ start then some e.still
  else (slice? cs start stop).map fun text =>
    ⟨⟨start, text⟩, some (.delete start stop), none⟩

def type (e : Editor) (text : List Char) : Outcome :=
  ⟨{ e with cursor := e.cursor + bytes text }, some (.insert e.cursor text), none⟩

def next (e : Editor) (cs : List Char) : Nat := ceil cs (e.cursor + 1)

def run? (e : Editor) (cs : List Char) : Command → Option Outcome
  | .insert c => some (e.type [c])
  | .toStart => some (e.moved 0)
  | .toEnd => some (e.moved (bytes cs))
  | .back => some (e.moved (floor cs (e.cursor - 1)))
  | .forward => some (e.moved (e.next cs))
  | .wordBack => (e.wordStart? cs).map e.moved
  | .wordForward => (e.wordEnd? cs).map e.moved
  | .cutToEnd => e.cutOut? cs e.cursor (bytes cs)
  | .cutToStart => e.cutOut? cs 0 e.cursor
  | .cutWord => (e.wordEnd? cs).bind fun n => e.cutOut? cs e.cursor n
  | .cutWordBack => (e.wordStart? cs).bind fun n => e.cutOut? cs n e.cursor
  | .cutBigWordBack => (e.bigWordStart? cs).bind fun n => e.cutOut? cs n e.cursor
  | .yank => some (if e.cut.isEmpty then e.still else e.type e.cut)
  | .deleteBack =>
    let start := floor cs (e.cursor - 1)
    some (if e.cursor = 0 then e.still
      else ⟨{ e with cursor := start }, some (.delete start e.cursor), none⟩)
  | .deleteForward =>
    some (if bytes cs ≤ e.cursor then e.still
      else ⟨e, some (.delete e.cursor (e.next cs)), none⟩)
  | .act a => some ⟨e, none, some a⟩

/-- A key pressed over a text; the cursor is first brought back to its end if need be. -/
def press? (e : Editor) (cs : List Char) (k : Key) : Option Outcome :=
  let e := { e with cursor := min e.cursor (bytes cs) }
  match Command.ofKey k with
  | none => some e.still
  | some c => e.run? cs c

end Editor

end Tether.Line
