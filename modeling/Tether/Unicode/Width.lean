import Tether.Unicode.Ligature
import Tether.Unicode.Picture

/-! The columns that text takes on a screen (Unicode 17). -/
namespace Tether.Unicode

/-- The East Asian widths W and F, with the unassigned code points between them. -/
def wideRanges : List Range := [
  ⟨0x1100, 0x115F⟩, ⟨0x231A, 0x231B⟩, ⟨0x2329, 0x232A⟩, ⟨0x23E9, 0x23EC⟩, ⟨0x23F0, 0x23F0⟩,
  ⟨0x23F3, 0x23F3⟩, ⟨0x25FD, 0x25FE⟩, ⟨0x2614, 0x2615⟩, ⟨0x2630, 0x2637⟩, ⟨0x2648, 0x2653⟩,
  ⟨0x267F, 0x267F⟩, ⟨0x268A, 0x268F⟩, ⟨0x2693, 0x2693⟩, ⟨0x26A1, 0x26A1⟩, ⟨0x26AA, 0x26AB⟩,
  ⟨0x26BD, 0x26BE⟩, ⟨0x26C4, 0x26C5⟩, ⟨0x26CE, 0x26CE⟩, ⟨0x26D4, 0x26D4⟩, ⟨0x26EA, 0x26EA⟩,
  ⟨0x26F2, 0x26F3⟩, ⟨0x26F5, 0x26F5⟩, ⟨0x26FA, 0x26FA⟩, ⟨0x26FD, 0x26FD⟩, ⟨0x2705, 0x2705⟩,
  ⟨0x270A, 0x270B⟩, ⟨0x2728, 0x2728⟩, ⟨0x274C, 0x274C⟩, ⟨0x274E, 0x274E⟩, ⟨0x2753, 0x2755⟩,
  ⟨0x2757, 0x2757⟩, ⟨0x2795, 0x2797⟩, ⟨0x27B0, 0x27B0⟩, ⟨0x27BF, 0x27BF⟩, ⟨0x2B1B, 0x2B1C⟩,
  ⟨0x2B50, 0x2B50⟩, ⟨0x2B55, 0x2B55⟩, ⟨0x2E80, 0x303E⟩, ⟨0x3041, 0x3096⟩, ⟨0x3099, 0x3247⟩,
  ⟨0x3250, 0xA4C6⟩, ⟨0xA960, 0xA97C⟩, ⟨0xAC00, 0xD7A3⟩, ⟨0xF900, 0xFAFF⟩, ⟨0xFE10, 0xFE19⟩,
  ⟨0xFE30, 0xFE6B⟩, ⟨0xFF01, 0xFF60⟩, ⟨0xFFE0, 0xFFE6⟩, ⟨0x16FE0, 0x16FE4⟩, ⟨0x16FF0, 0x1B2FB⟩,
  ⟨0x1D300, 0x1D376⟩, ⟨0x1F004, 0x1F004⟩, ⟨0x1F0CF, 0x1F0CF⟩, ⟨0x1F18E, 0x1F18E⟩,
  ⟨0x1F191, 0x1F19A⟩, ⟨0x1F200, 0x1F320⟩, ⟨0x1F32D, 0x1F335⟩, ⟨0x1F337, 0x1F37C⟩,
  ⟨0x1F37E, 0x1F393⟩, ⟨0x1F3A0, 0x1F3CA⟩, ⟨0x1F3CF, 0x1F3D3⟩, ⟨0x1F3E0, 0x1F3F0⟩,
  ⟨0x1F3F4, 0x1F3F4⟩, ⟨0x1F3F8, 0x1F43E⟩, ⟨0x1F440, 0x1F440⟩, ⟨0x1F442, 0x1F4FC⟩,
  ⟨0x1F4FF, 0x1F53D⟩, ⟨0x1F54B, 0x1F54E⟩, ⟨0x1F550, 0x1F567⟩, ⟨0x1F57A, 0x1F57A⟩,
  ⟨0x1F595, 0x1F596⟩, ⟨0x1F5A4, 0x1F5A4⟩, ⟨0x1F5FB, 0x1F64F⟩, ⟨0x1F680, 0x1F6C5⟩,
  ⟨0x1F6CC, 0x1F6CC⟩, ⟨0x1F6D0, 0x1F6D2⟩, ⟨0x1F6D5, 0x1F6DF⟩, ⟨0x1F6EB, 0x1F6EC⟩,
  ⟨0x1F6F4, 0x1F6FC⟩, ⟨0x1F7E0, 0x1F7F0⟩, ⟨0x1F90C, 0x1F93A⟩, ⟨0x1F93C, 0x1F945⟩,
  ⟨0x1F947, 0x1F9FF⟩, ⟨0x1FA70, 0x1FAF8⟩, ⟨0x20000, 0x3FFFD⟩]

/-- What takes no column besides the extending and the ignorable characters: the vowel and the
final letters of Hangul, the signs that stand over or before what follows them, and the unassigned
code points between two characters without a column. -/
def overlaidRanges : List Range := [
  ⟨0x605, 0x605⟩, ⟨0x70F, 0x70F⟩, ⟨0x890, 0x896⟩, ⟨0x8E2, 0x8E2⟩, ⟨0x9FF, 0xA00⟩, ⟨0xA43, 0xA46⟩,
  ⟨0xA49, 0xA4A⟩, ⟨0xA4E, 0xA50⟩, ⟨0xAC6, 0xAC6⟩, ⟨0xB00, 0xB00⟩, ⟨0xB4E, 0xB54⟩, ⟨0xC49, 0xC49⟩,
  ⟨0xC4E, 0xC54⟩, ⟨0xCC9, 0xCC9⟩, ⟨0xCCE, 0xCD4⟩, ⟨0xD4E, 0xD4E⟩, ⟨0xDCB, 0xDCE⟩, ⟨0xDD5, 0xDD5⟩,
  ⟨0xF98, 0xF98⟩, ⟨0x1161, 0x11FF⟩, ⟨0x1A5F, 0x1A5F⟩, ⟨0x1A7D, 0x1A7E⟩, ⟨0x1ADE, 0x1ADF⟩,
  ⟨0x1AEC, 0x1AFF⟩, ⟨0xA8FA, 0xA8FA⟩, ⟨0xD7B0, 0xD7FB⟩, ⟨0x10A04, 0x10A04⟩, ⟨0x10A07, 0x10A0B⟩,
  ⟨0x10A3B, 0x10A3E⟩, ⟨0x111C2, 0x111C3⟩, ⟨0x1136D, 0x1136F⟩, ⟨0x113C1, 0x113C1⟩,
  ⟨0x113C3, 0x113C4⟩, ⟨0x113C6, 0x113C6⟩, ⟨0x113D1, 0x113D1⟩, ⟨0x1193F, 0x1193F⟩,
  ⟨0x11941, 0x11941⟩, ⟨0x119D8, 0x119D9⟩, ⟨0x11A84, 0x11A89⟩, ⟨0x11C37, 0x11C37⟩,
  ⟨0x11D37, 0x11D39⟩, ⟨0x11D3B, 0x11D3B⟩, ⟨0x11D3E, 0x11D3E⟩, ⟨0x11D46, 0x11D46⟩,
  ⟨0x11F02, 0x11F02⟩, ⟨0x16FE5, 0x16FEF⟩, ⟨0x1CF2E, 0x1CF2F⟩, ⟨0x1DAA0, 0x1DAA0⟩,
  ⟨0x1E007, 0x1E007⟩, ⟨0x1E019, 0x1E01A⟩, ⟨0x1E022, 0x1E022⟩, ⟨0x1E025, 0x1E025⟩]

def isZeroWidth (c : Char) : Bool :=
  (isGraphemeExtend c && !isVoicingMark c) || isIgnorable c || member overlaidRanges c

def ownWidth? (c : Char) : Option Nat :=
  match c.toNat with
  | 0x115F | 0x17A4 => some 2
  | 0x17D8 => some 3
  | 0x2D7F => some 1
  | _ => none

/-- The columns of a character that stands alone. A control character counts as one. -/
def charWidth (c : Char) : Nat :=
  if c.toNat < 0x300 then if c = '\u00AD' then 0 else 1
  else (ownWidth? c).getD (if isZeroWidth c then 0 else if member wideRanges c then 2 else 1)

/-- The form that a selector asks of the character before it. -/
inductive Form where
  | picture
  | text
  | fullWidth
  deriving DecidableEq, Repr

def Form.ofChar? (c : Char) : Option Form :=
  match c.toNat with
  | 0xFE0F => some .picture
  | 0xFE0E => some .text
  | 0xFE01 => some .fullWidth
  | _ => none

/-- What a text starts with, as far as the width of a character before it depends on that. -/
inductive Head where
  | plain
  | lineFeed
  | ligature (l : Ligature)
  | picture (p : Picture)
  deriving DecidableEq, Repr

namespace Head

def ofChar (c : Char) : Head :=
  if c = '\n' then .lineFeed
  else match Ligature.ofChar? c, Picture.ofChar? c with
  | some l, _ => .ligature l
  | none, some p => .picture p
  | none, none => .plain

def select (f : Form) : Head → Head
  | ligature l => ligature l
  | picture .joined => if f = .picture then picture .joined else plain
  | picture .joinedKeycap => if f = .picture then picture .joinedKeycap else plain
  | _ => plain

/-- What is left of the head when the selector before it has no character to change. -/
def unselect : Head → Head
  | ligature l => ligature l
  | _ => plain

def isPicture : Head → Bool
  | picture _ => true
  | _ => false

end Head

/-- The start of a text: its head, perhaps after a selector. -/
structure Opening where
  form : Option Form
  head : Head
  deriving DecidableEq, Repr

namespace Opening

def ofHead (h : Head) : Opening := ⟨none, h⟩

def apart (c : Char) : Int × Opening := (charWidth c, ofHead (.ofChar c))

def beforeHead (c : Char) (h : Head) : Int × Opening :=
  if c.toNat ≤ 0xA0 then if c = '\r' && h = .lineFeed then (0, ofHead .plain) else apart c
  else match Form.ofChar? c, h with
  | some f, h => (0, ⟨some f, h.select f⟩)
  | none, .ligature l =>
    match l.merge? c, l.across? c with
    | some (n, m), _ => (n, ofHead ((m.map .ligature).getD .plain))
    | none, some m => (0, ofHead (.ligature m))
    | none, none => apart c
  | none, .picture p => ((p.merge? c).map fun (n, q) => (n, ofHead (.picture q))).getD (apart c)
  | none, _ => apart c

def hasNarrowForm (c : Char) : Bool :=
  isPicture c && hasForms c && !(0x1F200 ≤ c.toNat && c.toNat ≤ 0x1F2FF)

def before (c : Char) (o : Opening) : Int × Opening :=
  match o.form with
  | none => beforeHead c o.head
  | some .picture =>
    if hasForms c then (if o.head.isPicture then 0 else 2, ofHead (.picture .whole))
    else beforeHead c o.head.unselect
  | some .text =>
    if hasNarrowForm c then (1, ofHead .plain) else beforeHead c o.head
  | some .fullWidth =>
    if c = '\u2018' || c = '\u2019' || c = '\u201C' || c = '\u201D' then (2, ofHead .plain)
    else beforeHead c o.head

end Opening

def measure : List Char → Int × Opening
  | [] => (0, .ofHead .plain)
  | c :: cs =>
    let (columns, opening) := measure cs
    let (more, opening) := opening.before c
    (columns + more, opening)

/-- The columns of a text. They are fewer than those of its characters where some merge. -/
def width (cs : List Char) : Nat := (measure cs).1.toNat

end Tether.Unicode
