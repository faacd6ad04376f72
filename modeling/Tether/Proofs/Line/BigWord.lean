import Tether.Proofs.Line.Typing
import Tether.Proofs.Text.Ends

/-! Cutting the big word before the cursor: `cutsBigWordAt_iff`. -/
namespace Tether.Line
open Text
open Unicode (isWhite)

/-- The text before an offset ends with a word, as far back as there is no white space, and the
white space after it. Without a word there is nothing but white space. -/
structure BigWordAt (cs : List Char) (n : Nat) (lead word gap : List Char) : Prop where
  text : ∃ rest, cs = lead ++ ((word ++ gap) ++ rest)
  stop : bytes lead + bytes (word ++ gap) = n
  solid : ∀ c ∈ word, isWhite c = false
  white : ∀ c ∈ gap, isWhite c
  edge : ∀ c ∈ lead.getLast?, isWhite c
  found : word = [] → lead = []

theorem exists_bigWordAt {cs : List Char} {n : Nat} (h : isPosition cs n) :
    ∃ lead word gap, BigWordAt cs n lead word gap := by
  obtain ⟨head, rest, rfl, rfl⟩ := isPosition_iff.1 h
  obtain ⟨lead, word, gap, rfl, hw⟩ := exists_lastWord (!isWhite ·) head
  refine ⟨lead, word, gap, ⟨rest, ?_⟩, ?_, ?_, ?_, ?_, hw.found⟩
  · rw [List.append_assoc lead]
  · rw [bytes_append lead]
  · intro c hc
    simpa using hw.solid c hc
  · intro c hc
    simpa using hw.apart c hc
  · intro c hc
    simpa using hw.edge c hc

def behindLast : List Char → Nat
  | [] => 0
  | c :: cs => bytes (c :: cs).dropLast + 1

theorem behindLast_concat (init : List Char) (c : Char) :
    behindLast (init ++ [c]) = bytes init + 1 := by
  cases init with
  | nil => rfl
  | cons d init => rw [List.cons_append, behindLast, ← List.cons_append, List.dropLast_concat]

namespace BigWordAt
variable {cs lead word gap : List Char} {n : Nat}

theorem position (h : BigWordAt cs n lead word gap) : isPosition cs n := by
  obtain ⟨rest, rfl⟩ := h.text
  have hp := isPosition_append (lead ++ (word ++ gap)) rest
  rwa [bytes_append, h.stop, List.append_assoc] at hp

theorem lastWord (h : BigWordAt cs n lead word gap) : LastWord (!isWhite ·) lead word gap where
  apart := fun c hc => by simp [h.white c hc]
  solid := fun c hc => by simp [h.solid c hc]
  edge := fun c hc => by simp [h.edge c hc]
  found := h.found

theorem bigWordStart? (h : BigWordAt cs n lead word gap) {e : Editor} (he : e.cursor = n) :
    e.bigWordStart? cs = some (behindLast lead) := by
  obtain ⟨rest, rfl⟩ := h.text
  have hsplit : splitAt? (lead ++ ((word ++ gap) ++ rest)) e.cursor =
      some (lead ++ (word ++ gap), rest) := by
    refine splitAt?_eq_some.2 ⟨?_, ?_⟩
    · simp only [List.append_assoc]
    · rw [bytes_append, h.stop, he]
  have htrim : trimEnd (lead ++ (word ++ gap)) = lead ++ word := by
    simpa [trimEnd] using h.lastWord.dropEnd_gap
  have hlead : dropEnd (!isWhite ·) (lead ++ word) = lead := h.lastWord.dropEnd_word
  rw [Editor.bigWordStart?, hsplit, Option.map_some]
  simp only [htrim, hlead]
  cases lead <;> rfl

theorem behindLast_eq (h : ∀ c ∈ lead.getLast?, c.utf8Size = 1) : behindLast lead = bytes lead := by
  rcases List.eq_nil_or_concat' lead with rfl | ⟨init, c, rfl⟩
  · rfl
  · rw [behindLast_concat, bytes_append, bytes_cons, bytes_nil, h c (by simp)]

end BigWordAt

namespace Editor
variable {e : Editor} {cs : List Char} {k : Key}

def cutting (e : Editor) (start : Nat) (piece : List Char) : Outcome :=
  if piece = [] then e.still else ⟨⟨start, piece⟩, some (.delete start e.cursor), none⟩

theorem cutOut?_of_ne_nil {piece : List Char} (lead rest : List Char) (hp : piece ≠ []) :
    e.cutOut? (lead ++ (piece ++ rest)) (bytes lead) (bytes lead + bytes piece) =
      some ⟨⟨bytes lead, piece⟩, some (.delete (bytes lead) (bytes lead + bytes piece)), none⟩ := by
  have hn : bytes piece ≠ 0 := mt bytes_eq_zero.1 hp
  rw [cutOut?, if_neg (by omega), slice?_append]
  rfl

theorem cutOut?_append {lead piece rest : List Char} (hc : e.cursor = bytes lead + bytes piece) :
    e.cutOut? (lead ++ (piece ++ rest)) (bytes lead) e.cursor =
      some (e.cutting (bytes lead) piece) := by
  by_cases hp : piece = []
  · rw [cutOut?, cutting, if_pos hp, if_pos (by simp [hc, hp])]
  · rw [cutting, if_neg hp, hc]
    exact cutOut?_of_ne_nil lead rest hp

theorem press?_of_cutsBigWord (h : isPosition cs e.cursor) (hk : cutsBigWord k) :
    e.press? cs k = (e.bigWordStart? cs).bind fun n => e.cutOut? cs n e.cursor := by
  obtain ⟨code, ctrl, alt, shift⟩ := k
  simp only [cutsBigWord, Bool.and_eq_true, decide_eq_true_eq] at hk
  obtain ⟨rfl, rfl⟩ := hk
  exact press?_of_isPosition h _

/-- The key cuts the big word before the cursor with the white space after it. -/
def CutsBigWordAt (e : Editor) (cs : List Char) (k : Key) : Prop :=
  ∃ lead word gap, BigWordAt cs e.cursor lead word gap ∧
    e.press? cs k = some (e.cutting (bytes lead) (word ++ gap))

/-- The white character before the big word, if there is one, has one byte. -/
def NarrowBefore (e : Editor) (cs : List Char) : Prop :=
  ∀ lead word gap, BigWordAt cs e.cursor lead word gap → ∀ c ∈ lead.getLast?, c.utf8Size = 1

end Editor

namespace BigWordAt
variable {cs lead word gap : List Char} {e : Editor} {k : Key}

theorem cuts (h : BigWordAt cs e.cursor lead word gap) (hk : Editor.cutsBigWord k)
    (hn : ∀ c ∈ lead.getLast?, c.utf8Size = 1) :
    e.press? cs k = some (e.cutting (bytes lead) (word ++ gap)) := by
  rw [Editor.press?_of_cutsBigWord h.position hk, h.bigWordStart? rfl, Option.bind_some,
    behindLast_eq hn]
  obtain ⟨rest, rfl⟩ := h.text
  exact Editor.cutOut?_append h.stop.symm

theorem aborts (h : BigWordAt cs e.cursor lead word gap) (hk : Editor.cutsBigWord k) {c : Char}
    (hc : c ∈ lead.getLast?) (hn : c.utf8Size ≠ 1) : e.press? cs k = none := by
  have hp := h.position
  have hs := h.bigWordStart? rfl
  have hstop := h.stop
  have hw : word ≠ [] := by
    intro hw
    rw [h.found hw] at hc
    cases hc
  obtain ⟨init, rfl⟩ := List.getLast?_eq_some_iff.1 hc
  obtain ⟨rest, rfl⟩ := h.text
  have hpos := c.utf8Size_pos
  have hx : ¬ isPosition (init ++ [c] ++ ((word ++ gap) ++ rest)) (bytes init + 1) := by
    rw [List.append_assoc]
    exact not_isPosition_inside init _ (by omega) (by omega)
  have hlt : ¬ e.cursor ≤ bytes init + 1 := by
    rw [bytes_append, bytes_cons, bytes_nil, bytes_append] at hstop
    have : bytes word ≠ 0 := mt bytes_eq_zero.1 hw
    omega
  rw [Editor.press?_of_cutsBigWord hp hk, hs, Option.bind_some, behindLast_concat, Editor.cutOut?,
    if_neg hlt, slice?_of_not_isPosition hx]
  rfl

end BigWordAt

namespace Editor
variable {e : Editor} {cs : List Char} {k : Key}

def Aborts (e : Editor) (cs : List Char) (k : Key) : Prop := cutsBigWord k ∧ ¬ e.NarrowBefore cs

theorem press?_of_aborts (ha : e.Aborts cs k) : e.press? cs k = none := by
  obtain ⟨hk, hn⟩ := ha
  simp only [NarrowBefore, not_forall] at hn
  obtain ⟨lead, word, gap, hb, c, hc, hw⟩ := hn
  exact hb.aborts hk hc hw

/-- From any position of a text, control and `w` cut what they should exactly when the white
character before the big word has one byte, or when there is none. Else the key aborts. -/
theorem cutsBigWordAt_iff (h : isPosition cs e.cursor) (hk : cutsBigWord k) :
    (e.CutsBigWordAt cs k ↔ e.NarrowBefore cs) ∧
      (¬ e.NarrowBefore cs → e.press? cs k = none) := by
  have hn (hw : ¬ e.NarrowBefore cs) : e.press? cs k = none := press?_of_aborts ⟨hk, hw⟩
  refine ⟨⟨?_, fun hb => ?_⟩, hn⟩
  · rintro ⟨lead, word, gap, -, hp⟩
    by_contra hb
    rw [hn hb] at hp
    cases hp
  · obtain ⟨lead, word, gap, hw⟩ := exists_bigWordAt h
    exact ⟨lead, word, gap, hw, hw.cuts hk (hb lead word gap hw)⟩

/-- A word of wide characters after a space, and a wide space after it. -/
theorem cutsBigWordAt_iff_wide :
    let cs := ['é', ' ', '日', '本', '\u3000']
    let e : Editor := ⟨12, []⟩
    let k : Key := ⟨.char 'w', true, false, false⟩
    isPosition cs e.cursor ∧ cutsBigWord k ∧ e.NarrowBefore cs ∧ e.CutsBigWordAt cs k ∧
      e.press? cs k = some ⟨⟨3, ['日', '本', '\u3000']⟩, some (.delete 3 12), none⟩ := by
  intro cs e k
  have h : isPosition cs e.cursor := by decide +kernel
  have hk : cutsBigWord k := by decide
  have hp : e.press? cs k = some ⟨⟨3, ['日', '本', '\u3000']⟩, some (.delete 3 12), none⟩ := by rfl
  have hn : e.NarrowBefore cs := by
    by_contra hn
    rw [(cutsBigWordAt_iff h hk).2 hn] at hp
    cases hp
  exact ⟨h, hk, hn, (cutsBigWordAt_iff h hk).1.2 hn, hp⟩

/-- The key aborts after a word that stands behind a space of two bytes. -/
theorem cutsBigWordAt_iff_no_break :
    let cs := ['a', '\u00A0', 'b']
    let e : Editor := ⟨4, []⟩
    let k : Key := ⟨.char 'w', true, false, false⟩
    isPosition cs e.cursor ∧ cutsBigWord k ∧ BigWordAt cs e.cursor ['a', '\u00A0'] ['b'] [] ∧
      e.press? cs k = none ∧ ¬ e.CutsBigWordAt cs k := by
  intro cs e k
  have hp : e.press? cs k = none := by rfl
  have hb : BigWordAt cs e.cursor ['a', '\u00A0'] ['b'] [] := by
    refine ⟨⟨[], rfl⟩, by decide +kernel, ?_, nofun, ?_, nofun⟩
    · rw [List.forall_mem_singleton]
      decide +kernel
    · rintro c ⟨rfl⟩
      decide +kernel
  refine ⟨by decide +kernel, by decide, hb, hp, ?_⟩
  rintro ⟨lead, word, gap, -, hs⟩
  rw [hp] at hs
  cases hs

theorem serves_of_not_aborts (h : isPosition cs e.cursor) (ha : ¬ e.Aborts cs k) :
    Serves (e.press? cs k) cs := by
  cases hk : cutsBigWord k with
  | false => exact serves_press? h hk
  | true =>
    have hn : e.NarrowBefore cs := by
      by_contra hn
      exact ha ⟨hk, hn⟩
    obtain ⟨lead, word, gap, hw⟩ := exists_bigWordAt h
    rw [press?_of_cutsBigWord h hk, hw.bigWordStart? rfl, Option.bind_some,
      BigWordAt.behindLast_eq (hn lead word gap hw)]
    obtain ⟨rest, rfl⟩ := hw.text
    exact serves_cutOut? (isPosition_append lead _) h

end Editor

end Tether.Line

namespace Tether.Input
open Line Text

theorem press?_eq_none {i : Input} {k : Key} (h : isPosition i.value i.cursor) :
    i.press? k = none ↔ i.editor.Aborts i.value k := by
  constructor
  · intro hp
    by_contra ha
    obtain ⟨o, v, ho, hv, -⟩ := Editor.exists_of_serves h (Editor.serves_of_not_aborts h ha)
    rw [press?, ho, Option.bind_eq_bind, Option.bind_some] at hp
    rw [Outcome.applied?] at hv
    cases he : o.edit with
    | none => simp [he] at hp
    | some d =>
      rw [he] at hv
      simp [he, hv] at hp
  · intro ha
    rw [press?, Editor.press?_of_aborts ha]
    rfl

end Tether.Input
