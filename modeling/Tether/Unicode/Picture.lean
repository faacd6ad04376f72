import Tether.Unicode.Emoji

/-! Pictures of several characters. A text is read from its end, and a picture is what the start of
a text can still become a part of. -/
namespace Tether.Unicode

/-- The start of a text that is the end of a picture. -/
inductive Picture where
  /-- A picture that is complete by itself. -/
  | whole
  /-- A skin tone, which goes to the picture before it. -/
  | tone
  /-- Letters of flags, so many of them. -/
  | flag (letters : Nat)
  /-- A joiner before a picture. -/
  | joined
  /-- The frame of a key before a joined picture. -/
  | joinedKeycap
  /-- Letters of flags before a joined picture. -/
  | joinedFlag (letters : Nat)
  /-- The end of the spelled name of a flag before a joined picture, with what it has so far. -/
  | joinedTag (letters digits : Nat)
  deriving DecidableEq, Repr

namespace Picture

def ofChar? (c : Char) : Option Picture :=
  if isRegionalIndicator c then some (flag 1)
  else if isEmojiModifier c then some tone
  else if isPicture c then some whole
  else none

def takesJoiner : Picture → Bool
  | whole | tone => true
  | flag letters | joinedFlag letters => 1 < letters
  | _ => false

/-- The spelled name of a flag with one more character before it. From its start, a name has three
digits and at most four letters, or three to six letters. -/
def spell? (letters digits : Nat) (c : Char) : Option Picture :=
  let n := c.toNat
  if 0xE0061 ≤ n && n ≤ 0xE007A then
    if digits = 0 && letters < 6 then some (joinedTag (letters + 1) 0) else none
  else if 0xE0030 ≤ n && n ≤ 0xE0039 then
    if letters ≤ 4 && digits < 3 then some (joinedTag letters (digits + 1)) else none
  else if n = 0x1F3F4 && (digits = 3 || (digits = 0 && 3 ≤ letters)) then some whole
  else none

/-- The columns that a character of the picture adds, and what it then is the start of. A flag has
a column for each letter, but joined flags have two together. -/
def merge? (p : Picture) (c : Char) : Option (Int × Picture) :=
  if c = joiner then if p.takesJoiner then some (0, joined) else none
  else match p with
  | whole | joinedKeycap => none
  | tone => if isModifierBase c then some (0, whole) else none
  | flag letters => if isRegionalIndicator c then some (1, flag (letters + 1)) else none
  | joined =>
    if c.toNat = 0x20E3 then some (0, joinedKeycap)
    else if c.toNat = 0xE007F then some (0, joinedTag 0 0)
    else match ofChar? c with
    | some (flag letters) => some (1, joinedFlag letters)
    | some q => some (0, q)
    | none => none
  | joinedFlag letters =>
    if isRegionalIndicator c then
      some (if letters % 2 = 1 then -1 else 3, joinedFlag (letters + 1))
    else none
  | joinedTag letters digits => (spell? letters digits c).map (0, ·)

end Picture

end Tether.Unicode
