import Tether.Expr.Basic
import Mathlib.Tactic.ByContra
import Mathlib.Tactic.Tauto

/-! White space and the characters of names are apart, above ASCII because their tables are. -/
namespace Tether.Unicode

def Range.apart (r s : Range) : Bool := r.last < s.first || s.last < r.first

theorem Range.has_of_apart {r s : Range} {n : Nat} (h : r.apart s) (hr : r.has n) :
    s.has n = false := by
  simp only [apart, has, Bool.or_eq_true, Bool.and_eq_true, decide_eq_true_eq] at h hr
  simp only [has, Bool.and_eq_false_iff, decide_eq_false_iff_not]
  omega

theorem member_of_apart {rs ss : List Range} (h : ∀ r ∈ rs, ∀ s ∈ ss, r.apart s) {c : Char}
    (hc : member rs c) : member ss c = false := by
  obtain ⟨r, hr, hrc⟩ := List.any_eq_true.1 hc
  refine List.any_eq_false.2 fun s hs => ?_
  rw [Range.has_of_apart (h r hr s hs) hrc]
  exact Bool.false_ne_true

theorem white_alphabetic_apart : ∀ r ∈ whiteRanges, ∀ s ∈ alphabeticRanges, r.apart s := by
  decide +kernel

theorem white_numeric_apart : ∀ r ∈ whiteRanges, ∀ s ∈ numericRanges, r.apart s := by
  decide +kernel

theorem white_ascii {c : Char} (h : isWhite c) (hc : c.toNat < 0x80) : c.toNat ≤ 32 := by
  simp only [isWhite, member, whiteRanges, Range.has, List.any_cons, List.any_nil, Bool.or_eq_true,
    Bool.and_eq_true, decide_eq_true_eq, Bool.or_false] at h
  omega

theorem bounds_of_isAsciiLetter {c : Char} (h : isAsciiLetter c) :
    (65 ≤ c.toNat ∧ c.toNat ≤ 90) ∨ (97 ≤ c.toNat ∧ c.toNat ≤ 122) := by
  obtain hu | hl := (Bool.or_eq_true c.isUpper c.isLower).mp h
  · exact .inl (of_decide_eq_true hu)
  · exact .inr (((Bool.and_eq_true _ _).mp hl).imp of_decide_eq_true of_decide_eq_true)

theorem bounds_of_isDigit {c : Char} (h : c.isDigit) : 48 ≤ c.toNat ∧ c.toNat ≤ 57 := by
  simp only [Char.isDigit, Bool.and_eq_true, decide_eq_true_eq, UInt32.le_iff_toNat_le,
    ge_iff_le] at h
  exact h

theorem not_isWhite_of_isDigit {c : Char} (h : c.isDigit) : isWhite c = false := by
  have hb := bounds_of_isDigit h
  by_contra hw
  have hle := white_ascii (Bool.not_eq_false _ ▸ hw) (by omega)
  omega

theorem not_isAlphabetic_of_white {c : Char} (h : isWhite c) : isAlphabetic c = false := by
  rw [isAlphabetic]
  split
  · next hc =>
    have hw := white_ascii h hc
    by_contra ha
    have hl := bounds_of_isAsciiLetter (Bool.not_eq_false _ ▸ ha)
    omega
  · exact member_of_apart white_alphabetic_apart h

theorem not_isNumeric_of_white {c : Char} (h : isWhite c) : isNumeric c = false := by
  rw [isNumeric]
  split
  · next hc =>
    by_contra hd
    rw [not_isWhite_of_isDigit (Bool.not_eq_false _ ▸ hd)] at h
    cases h
  · exact member_of_apart white_numeric_apart h

end Tether.Unicode

namespace Tether
open Unicode

theorem not_white_of_isNameChar {c : Char} (h : isNameChar c) : isWhite c = false := by
  by_contra hw
  rw [Bool.not_eq_false] at hw
  simp only [isNameChar, isAlphanumeric, not_isAlphabetic_of_white hw, not_isNumeric_of_white hw,
    Bool.or_false, Bool.false_or, Bool.or_eq_true, decide_eq_true_eq] at h
  rcases h with rfl | rfl <;> exact absurd hw (by decide)

theorem isNameChar_of_isNameStart {c : Char} (h : isNameStart c) : isNameChar c := by
  simp only [isNameStart, isNameChar, isAlphanumeric, Bool.or_eq_true] at h ⊢
  tauto

theorem isNameChar_of_isName {cs : List Char} (h : isName cs) : ∀ c ∈ cs, isNameChar c := by
  cases cs with
  | nil => simp
  | cons c cs =>
    simp only [isName, Bool.and_eq_true, List.all_eq_true] at h
    intro d hd
    rcases List.mem_cons.1 hd with rfl | hd
    · exact isNameChar_of_isNameStart h.1
    · exact h.2 d hd

theorem not_isDigit_of_isNameStart {c : Char} (h : isNameStart c) : c.isDigit = false := by
  by_contra hd
  rw [Bool.not_eq_false] at hd
  have hb : 48 ≤ c.toNat ∧ c.toNat ≤ 57 := by
    simpa [Char.isDigit, UInt32.le_iff_toNat_le] using hd
  have ha : isAlphabetic c = isAsciiLetter c := by
    rw [isAlphabetic, if_pos (by omega)]
  rw [isNameStart, ha, Bool.or_eq_true] at h
  rcases h with h | h
  · have hl := bounds_of_isAsciiLetter h
    omega
  · rw [decide_eq_true_eq] at h
    subst h
    cases hd

theorem not_mem_of_isName {cs : List Char} (h : isName cs) {c : Char} (hc : isNameChar c = false) :
    c ∉ cs := by
  intro hm
  simp [isNameChar_of_isName h c hm] at hc

theorem not_white_of_isName {cs : List Char} (h : isName cs) : ∀ c ∈ cs, isWhite c = false :=
  fun c hc => not_white_of_isNameChar (isNameChar_of_isName h c hc)

theorem ne_nil_of_isName {cs : List Char} (h : isName cs) : cs ≠ [] := by
  rintro rfl
  exact Bool.false_ne_true h

end Tether
