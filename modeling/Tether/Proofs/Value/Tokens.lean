import Tether.Proofs.Eval.Arithmetic
import Tether.Proofs.Expr.Spacing
import Tether.Proofs.Value.Text

/-! The text of data is cut into the tokens it is written with, whatever closes it:
`Value.Plain.scanned`. -/
namespace Tether

theorem Unicode.showsAlone_of_ascii {c : Char} (h : 0x20 ≤ c.toNat) (h' : c.toNat ≤ 0x7E) :
    showsAlone c := by
  have hp : c.toNat < 0x7F := by omega
  have ha : c.toNat < 0x80 := by omega
  simp [showsAlone, isPrintable, isIgnorable, isGraphemeExtend, hp, ha, h]

namespace Number

theorem isDigit_of_mem_digits {n : Nat} {c : Char} (h : c ∈ digits n) : c.isDigit :=
  Nat.isDigit_of_mem_toDigits (by decide) (by decide) h

theorem digitsValue_digits (n : Nat) : Token.digitsValue (digits n) = n := by
  have h : Nat.ofDigitChars 10 (digits n) 0 = n := Nat.ofDigitChars_ten_toDigits
  rwa [Nat.ofDigitChars_eq_foldl] at h

end Number

namespace Value
open Number
open Token (Scans)

/-- A printable ASCII character, a line feed or a tab. -/
def Readable (c : Char) : Prop := 0x20 ≤ c.toNat ∧ c.toNat ≤ 0x7E ∨ c = '\n' ∨ c = '\t'

/-- Data: integers but the least one, truth values, texts of readable characters, and lists of data,
nested at most `k` deep. -/
inductive Plain : Nat → Value → Prop
  | int {k : Nat} {n : Int64} (h : n ≠ Int64.minValue) : Plain k (.int n)
  | bool {k : Nat} {b : Bool} : Plain k (.bool b)
  | str {k : Nat} {s : String} (h : ∀ c ∈ s.toList, Readable c) : Plain k (.str s)
  | list {k : Nat} {vs : List Value} (h : ∀ v ∈ vs, Plain k v) : Plain (k + 1) (.list vs)

def magnitude (n : Int64) : Int64 := Int64.ofNat n.toInt.natAbs

theorem toInt_magnitude {n : Int64} (h : n ≠ Int64.minValue) :
    (magnitude n).toInt = n.toInt.natAbs :=
  toInt_ofNat (fits_natAbs h)

mutual

/-- The tokens data is written with; what is no data has none. -/
def toks : Value → List Tok
  | int n => (if n.toInt < 0 then [.sym .minus] else []) ++ [.int (magnitude n)]
  | str s => [.str s]
  | bool b => [.ident (if b then "true" else "false")]
  | list [] => [.sym .lbracket, .sym .rbracket]
  | list (v :: vs) => .sym .lbracket :: (v.toks ++ (moreToks vs ++ [.sym .rbracket]))
  | float _ | record _ | func _ => []

def moreToks : List Value → List Tok
  | [] => []
  | v :: vs => .sym .comma :: (v.toks ++ moreToks vs)

end

def Closes (rest : List Char) : Prop := ∀ d ∈ rest.head?, d = ',' ∨ d = ']'

def Scanned (v : Value) : Prop :=
  ∀ rest toks, Closes rest → Scans rest toks → Scans (v.text.toList ++ rest) (v.toks ++ toks)

section Scan
variable {rest : List Char} {toks : List Tok}

theorem Closes.not_isNameChar (h : Closes rest) : ∀ d ∈ rest.head?, isNameChar d = false := by
  intro d hd
  obtain rfl | rfl := h d hd <;> rfl

theorem Closes.not_isDigit (h : Closes rest) : ∀ d ∈ rest.head?, d.isDigit = false := by
  intro d hd
  obtain rfl | rfl := h d hd <;> rfl

theorem Closes.ne_dot (h : Closes rest) : rest.head? ≠ some '.' := by
  intro hd
  obtain hd | hd := h '.' hd <;> cases hd

theorem scans_digits {n : Nat} (hn : Fits n) (hr : Closes rest) (hs : Scans rest toks) :
    Scans (digits n ++ rest) (.int (Int64.ofNat n) :: toks) := by
  have hd : ∀ c ∈ digits n, c.isDigit := fun c => isDigit_of_mem_digits
  have hv := digitsValue_digits n
  have hne : digits n ≠ [] := Nat.toDigits_ne_nil
  obtain ⟨c, ds, hc⟩ := List.exists_cons_of_ne_nil hne
  rw [hc] at hd hv ⊢
  have hf (start : Nat) := Token.first_int hd (by rwa [hv, inRange_iff]) hr.not_isDigit hr.ne_dot
    start
  rw [hv] at hf
  exact .cons (Unicode.not_isWhite_of_isDigit (hd c List.mem_cons_self)) hf hs

theorem scanned_int {n : Int64} (hn : n ≠ Int64.minValue) : Scanned (int n) := by
  intro rest toks hr hs
  have hd : Scans (digits n.toInt.natAbs ++ rest) (.int (magnitude n) :: toks) :=
    scans_digits (fits_natAbs hn) hr hs
  rw [toList_text, write, List.append_nil, List.reverse_reverse, intText, signed, Value.toks]
  by_cases h : n.toInt < 0
  · simpa [h] using Scans.single (c := '-') rfl (fun _ => rfl) hd
  · simpa [h] using hd

theorem scanned_bool (b : Bool) : Scanned (bool b) := by
  intro rest toks hr hs
  cases b
  · have hn : isName "false".toList := by rfl
    exact .name hn hr.not_isNameChar hs
  · have hn : isName "true".toList := by rfl
    exact .name hn hr.not_isNameChar hs

/-- Readable characters are escaped as a string has them. -/
theorem escapeChar_eq_escape {c : Char} (h : Readable c) : Text.escapeChar c = Token.escape c := by
  unfold Token.escape
  split
  · rfl
  · rfl
  · rfl
  · rfl
  next hb hq hn ht =>
    have ha : 0x20 ≤ c.toNat ∧ c.toNat ≤ 0x7E := h.resolve_right (not_or.2 ⟨hn, ht⟩)
    have hr : c ≠ '\r' := by
      rintro rfl
      exact absurd ha.1 (by decide)
    have hz : c.toNat ≠ 0 := by omega
    rw [Text.escapeChar, if_neg hq, if_neg hb, if_neg hn, if_neg ht, if_neg hr, if_neg hz,
      if_pos (Unicode.showsAlone_of_ascii ha.1 ha.2)]

theorem scanned_str {s : String} (h : ∀ c ∈ s.toList, Readable c) : Scanned (str s) := by
  intro rest toks _ hs
  have he : s.toList.flatMap Text.escapeChar = s.toList.flatMap Token.escape :=
    List.flatMap_congr fun c hc => escapeChar_eq_escape (h c hc)
  have hf (start : Nat) := Token.first_str s.toList start rest
  rw [String.ofList_toList] at hf
  simpa [toList_text, write, Text.quoted, he, Value.toks] using Scans.cons (by rfl) hf hs

theorem closes_more (vs : List Value) (rest : List Char) :
    Closes ((vs.flatMap fun v => ',' :: ' ' :: v.text.toList) ++ ']' :: rest) := by
  cases vs <;> simp [Closes]

theorem scans_more {vs : List Value} (h : ∀ v ∈ vs, Scanned v) (hs : Scans rest toks) :
    Scans ((vs.flatMap fun v => ',' :: ' ' :: v.text.toList) ++ ']' :: rest)
      (moreToks vs ++ .sym .rbracket :: toks) := by
  induction vs with
  | nil => exact .single rfl (fun _ => rfl) hs
  | cons v vs ih =>
    obtain ⟨hv, hvs⟩ := List.forall_mem_cons.1 h
    have hi := hv _ _ (closes_more vs rest) (ih hvs)
    have hc := Scans.single (c := ',') rfl (fun _ => rfl) (.white (c := ' ') (by rfl) hi)
    simpa [moreToks] using hc

theorem scanned_list {vs : List Value} (h : ∀ v ∈ vs, Scanned v) : Scanned (list vs) := by
  intro rest toks _ hs
  cases vs with
  | nil => exact .single rfl (fun _ => rfl) (.single rfl (fun _ => rfl) hs)
  | cons v vs =>
    obtain ⟨hv, hvs⟩ := List.forall_mem_cons.1 h
    have hi := hv _ _ (closes_more vs rest) (scans_more hvs hs)
    have hl := Scans.single (c := '[') rfl (fun _ => rfl) hi
    simpa [toList_text_list, Value.toks] using hl

theorem Plain.scanned {k : Nat} {v : Value} (h : Plain k v) : Scanned v := by
  induction h with
  | int hn => exact scanned_int hn
  | bool => exact scanned_bool _
  | str hc => exact scanned_str hc
  | list h ih => exact scanned_list ih

end Scan

theorem Plain.trimmed {k : Nat} {v : Value} (h : Plain k v) : Text.Trimmed v.text.toList := by
  cases h with
  | @int k n hn =>
    have hd : ∀ c ∈ digits n.toInt.natAbs, Unicode.isWhite c = false :=
      fun c hc => Unicode.not_isWhite_of_isDigit (isDigit_of_mem_digits hc)
    rw [toList_text, write, List.append_nil, List.reverse_reverse, intText, signed]
    refine Text.trimmed_of_forall ?_
    split
    · exact List.forall_mem_cons.2 ⟨by rfl, hd⟩
    · exact hd
  | @bool k b =>
    cases b
    · exact Text.trimmed_of_ends (by rfl) (by rfl) ['a', 'l', 's']
    · exact Text.trimmed_of_ends (by rfl) (by rfl) ['r', 'u']
  | str hc =>
    rw [toList_text, write, List.append_nil, List.reverse_reverse, Text.quoted]
    exact Text.trimmed_of_ends (by rfl) (by rfl) _
  | @list k vs h =>
    cases vs with
    | nil => exact Text.trimmed_of_ends (by rfl) (by rfl) []
    | cons v vs =>
      rw [toList_text_list, ← List.append_assoc]
      exact Text.trimmed_of_ends (by rfl) (by rfl) _

end Value

end Tether
