import Tether.Unicode.Emoji
import Tether.Unicode.Printing

/-! Letters that merge with what stands before them into one glyph. A text is read from its end, and
a ligature is what the start of a text can still become a part of. -/
namespace Tether.Unicode

/-- The extending and the ignorable characters that no Arabic letters join across. -/
def apartRanges : List Range := [
  ⟨0x9BE, 0x9BE⟩, ⟨0x9D7, 0x9D7⟩, ⟨0xB3E, 0xB3E⟩, ⟨0xB57, 0xB57⟩, ⟨0xBBE, 0xBBE⟩, ⟨0xBD7, 0xBD7⟩,
  ⟨0xCC0, 0xCC0⟩, ⟨0xCC2, 0xCC2⟩, ⟨0xCC7, 0xCC8⟩, ⟨0xCCA, 0xCCB⟩, ⟨0xCD5, 0xCD6⟩, ⟨0xD3E, 0xD3E⟩,
  ⟨0xD57, 0xD57⟩, ⟨0xDCF, 0xDCF⟩, ⟨0xDDF, 0xDDF⟩, ⟨0x115F, 0x1160⟩, ⟨0x1715, 0x1715⟩,
  ⟨0x1734, 0x1734⟩, ⟨0x180E, 0x180E⟩, ⟨0x1B35, 0x1B35⟩, ⟨0x1B3B, 0x1B3B⟩, ⟨0x1B3D, 0x1B3D⟩,
  ⟨0x1B43, 0x1B44⟩, ⟨0x1BAA, 0x1BAA⟩, ⟨0x1BF2, 0x1BF3⟩, ⟨0x200C, 0x200D⟩, ⟨0x2065, 0x2069⟩,
  ⟨0x2D7F, 0x2D7F⟩, ⟨0x302E, 0x302F⟩, ⟨0x3164, 0x3164⟩, ⟨0xA953, 0xA953⟩, ⟨0xA9C0, 0xA9C0⟩,
  ⟨0xFF9E, 0xFFA0⟩, ⟨0xFFF0, 0xFFF8⟩, ⟨0x111C0, 0x111C0⟩, ⟨0x11235, 0x11235⟩, ⟨0x1133E, 0x1133E⟩,
  ⟨0x1134D, 0x1134D⟩, ⟨0x11357, 0x11357⟩, ⟨0x113B8, 0x113B8⟩, ⟨0x113C2, 0x113C2⟩,
  ⟨0x113C5, 0x113C5⟩, ⟨0x113C7, 0x113C9⟩, ⟨0x113CF, 0x113CF⟩, ⟨0x114B0, 0x114B0⟩,
  ⟨0x114BD, 0x114BD⟩, ⟨0x115AF, 0x115AF⟩, ⟨0x116B6, 0x116B6⟩, ⟨0x11930, 0x11930⟩,
  ⟨0x1193D, 0x1193D⟩, ⟨0x11F41, 0x11F41⟩, ⟨0x16FF0, 0x16FF1⟩, ⟨0x1D165, 0x1D166⟩,
  ⟨0x1D16D, 0x1D172⟩, ⟨0xE0000, 0xE0000⟩, ⟨0xE0002, 0xE001F⟩, ⟨0xE0080, 0xE00FF⟩,
  ⟨0xE01F0, 0xE0FFF⟩]

def isTransparent (c : Char) : Bool :=
  c = '\u070F' || ((isGraphemeExtend c || isIgnorable c) && !member apartRanges c)

def isHiddenMark (c : Char) : Bool :=
  let n := c.toNat
  n = 0x34F || n = 0x17B4 || n = 0x17B5 || (0x180B ≤ n && n ≤ 0x180F && n != 0x180E) ||
    (0xFE00 ≤ n && n ≤ 0xFE0F) || (0xE0100 ≤ n && n ≤ 0xE01EF)

def alefRanges : List Range := [
  ⟨0x622, 0x623⟩, ⟨0x625, 0x625⟩, ⟨0x627, 0x627⟩, ⟨0x671, 0x673⟩, ⟨0x675, 0x675⟩, ⟨0x773, 0x774⟩,
  ⟨0x870, 0x882⟩]

def lamRanges : List Range := [
  ⟨0x644, 0x644⟩, ⟨0x6B5, 0x6B8⟩, ⟨0x76A, 0x76A⟩, ⟨0x8A6, 0x8A6⟩, ⟨0x8C7, 0x8C7⟩]

/-- The Khmer letters with a form under other letters. -/
def subscriptRanges : List Range := [
  ⟨0x1780, 0x1782⟩, ⟨0x1784, 0x1787⟩, ⟨0x1789, 0x178C⟩, ⟨0x178E, 0x1793⟩, ⟨0x1795, 0x1798⟩,
  ⟨0x179B, 0x179D⟩, ⟨0x17A0, 0x17A0⟩, ⟨0x17A2, 0x17A2⟩, ⟨0x17A7, 0x17A7⟩, ⟨0x17AB, 0x17AC⟩,
  ⟨0x17AF, 0x17AF⟩]

def isTifinagh (c : Char) : Bool :=
  let n := c.toNat
  (0x2D31 ≤ n && n ≤ 0x2D65) || n = 0x2D6F

/-- The start of a text that is the end of a ligature. Some need a joiner, which may have come. -/
inductive Ligature where
  /-- Arabic alef, after which lam takes no column. -/
  | alef
  /-- Hebrew lamed, joined with alef. -/
  | lamed (joined : Bool)
  /-- Buginese ya, joined with the vowel sign i. -/
  | ya (joined : Bool)
  /-- The vowel sign i before a joined ya, in a ligature with the letter a. -/
  | iYa
  /-- A consonant of Tifinagh, joined with another one. -/
  | tifinagh (joined : Bool)
  /-- The sign that joins consonants of Tifinagh, before the second one. -/
  | joinedTifinagh
  /-- The second tone letter of a pair of Lisu. -/
  | tone
  /-- Old Turkic i, joined with another letter. -/
  | orkhonI (joined : Bool)
  /-- A Khmer letter that goes under the one before it. -/
  | subscript
  /-- The Kirat Rai vowel sign e. -/
  | kiratE
  /-- The Kirat Rai vowel sign ai. -/
  | kiratAi
  deriving DecidableEq, Repr

namespace Ligature

def ofChar? (c : Char) : Option Ligature :=
  let n := c.toNat
  if n < 0x5DC then none
  else if n = 0x5DC then some (.lamed false)
  else if member alefRanges c then some .alef
  else if member subscriptRanges c then some .subscript
  else if n = 0x1A10 then some (.ya false)
  else if isTifinagh c then some (.tifinagh false)
  else if n = 0xA4FC || n = 0xA4FD then some .tone
  else if n = 0x10C03 then some (.orkhonI false)
  else if n = 0x16D67 then some .kiratE
  else if n = 0x16D68 then some .kiratAi
  else none

def join : Ligature → Ligature
  | lamed _ => lamed true
  | ya _ => ya true
  | tifinagh _ => tifinagh true
  | orkhonI _ => orkhonI true
  | l => l

/-- What a ligature is after a character that stands in it without a column. -/
def across? (l : Ligature) (c : Char) : Option Ligature :=
  match l with
  | alef => if isTransparent c then some l else none
  | kiratE | kiratAi => none
  | _ => if c = joiner then some l.join else if isHiddenMark c then some l else none

/-- The columns that a letter of the ligature adds, and what it then is the start of, if anything.
A letter that takes part of the columns after it adds less than none. -/
def merge? (l : Ligature) (c : Char) : Option (Int × Option Ligature) :=
  let n := c.toNat
  match l with
  | alef => if member lamRanges c then some (0, none) else none
  | lamed joined => if joined && n = 0x5D0 then some (0, none) else none
  | ya joined => if joined && n = 0x1A17 then some (0, some iYa) else none
  | iYa => if n = 0x1A15 then some (0, none) else none
  | tifinagh joined =>
    if n = 0x2D7F then some (1, some joinedTifinagh)
    else if joined && isTifinagh c then some (0, none)
    else none
  | joinedTifinagh => if isTifinagh c then some (-1, none) else none
  | tone => if 0xA4F8 ≤ n && n ≤ 0xA4FB then some (0, none) else none
  | orkhonI joined => if joined && n = 0x10C32 then some (0, none) else none
  | subscript => if n = 0x17D2 then some (-1, none) else none
  | kiratE =>
    if n = 0x16D63 || n = 0x16D69 then some (0, none)
    else if n = 0x16D67 then some (0, some kiratAi)
    else if n = 0x16D68 then some (1, some kiratE)
    else none
  | kiratAi => if n = 0x16D63 then some (0, none) else none

end Ligature

end Tether.Unicode
