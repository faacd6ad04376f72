import Tether.Complete.Word
import Tether.Proofs.Text.Position
import Tether.Proofs.Text.Split
import Tether.Proofs.Unicode.Names
import Mathlib

/-! The word at a cursor among the boundaries around it (`wordAt_maximal`) and, the other way round,
the boundaries that make a word one (`wordAt_between`). A text that differs from a word in ASCII case
only has no boundary either. -/
namespace Tether.Complete
open Text Unicode

def Unbroken (cs : List Char) : Prop := ∀ c ∈ cs, isBoundary c = false

/-- The word between two texts is not longer on either side. -/
structure Bounded (before after : List Char) : Prop where
  before : takeEnd (!isBoundary ·) before = []
  after : after.takeWhile (!isBoundary ·) = []

theorem unbroken_takeWhile (cs : List Char) : Unbroken (cs.takeWhile (!isBoundary ·)) := by
  intro c hc
  simpa using List.mem_takeWhile_imp hc

theorem unbroken_takeEnd (cs : List Char) : Unbroken (takeEnd (!isBoundary ·) cs) := by
  intro c hc
  exact unbroken_takeWhile cs.reverse c (List.mem_reverse.1 hc)

theorem Unbroken.append {a b : List Char} (ha : Unbroken a) (hb : Unbroken b) : Unbroken (a ++ b) := by
  intro c hc
  obtain hc | hc := List.mem_append.1 hc
  · exact ha c hc
  · exact hb c hc

theorem takeWhile_dropWhile (p : Char → Bool) (cs : List Char) :
    (cs.dropWhile p).takeWhile p = [] :=
  takeWhile_eq_nil_iff.2 (head?_dropWhile p cs)

theorem takeEnd_dropEnd (p : Char → Bool) (cs : List Char) : takeEnd p (dropEnd p cs) = [] :=
  takeEnd_eq_nil_iff.2 (getLast?_dropEnd p cs)

theorem exists_wordAt (cs : List Char) (cursor : Nat) :
    ∃ a d, cs = a ++ ((wordAt cs cursor).text ++ d) ∧ bytes a = (wordAt cs cursor).start ∧
      (wordAt cs cursor).stop = (wordAt cs cursor).start + bytes (wordAt cs cursor).text ∧
      Bounded a d ∧ Unbroken (wordAt cs cursor).text := by
  have hs := splitFloor_append cs cursor
  generalize hp : splitFloor cs cursor = p at hs
  obtain ⟨before, after⟩ := p
  have hw : wordAt cs cursor =
      ⟨takeEnd (!isBoundary ·) before ++ after.takeWhile (!isBoundary ·),
        bytes before - bytes (takeEnd (!isBoundary ·) before),
        bytes before + bytes (after.takeWhile (!isBoundary ·))⟩ := by
    simp only [wordAt, hp]
  have hb : dropEnd (!isBoundary ·) before ++ takeEnd (!isBoundary ·) before = before :=
    dropEnd_append_takeEnd _ before
  have ha : after.takeWhile (!isBoundary ·) ++ after.dropWhile (!isBoundary ·) = after :=
    List.takeWhile_append_dropWhile
  have hn : bytes (dropEnd (!isBoundary ·) before) + bytes (takeEnd (!isBoundary ·) before) =
      bytes before := by
    rw [← bytes_append, hb]
  rw [hw]
  refine ⟨dropEnd (!isBoundary ·) before, after.dropWhile (!isBoundary ·), ?_, ?_, ?_,
    ⟨takeEnd_dropEnd _ before, takeWhile_dropWhile _ after⟩,
    (unbroken_takeEnd before).append (unbroken_takeWhile after)⟩
  · rw [List.append_assoc, ha, ← List.append_assoc, hb]
    exact hs.symm
  · dsimp only
    omega
  · dsimp only
    rw [bytes_append]
    omega

theorem wordAt_of_splitFloor {cs a u v d : List Char} {cursor : Nat}
    (hs : splitFloor cs cursor = (a ++ u, v ++ d)) (hb : Bounded a d) (hu : Unbroken u)
    (hv : Unbroken v) : wordAt cs cursor = ⟨u ++ v, bytes a, bytes a + bytes (u ++ v)⟩ := by
  have hhead : takeEnd (!isBoundary ·) (a ++ u) = u := by
    rw [takeEnd_append fun c hc => by simp [hu c hc], hb.before, List.nil_append]
  have htail : (v ++ d).takeWhile (!isBoundary ·) = v := by
    rw [List.takeWhile_append_of_pos fun c hc => by simp [hv c hc], hb.after, List.append_nil]
  simp only [wordAt, hs, hhead, htail]
  simp [Nat.add_assoc]

theorem wordAt_between {a word d : List Char} (hb : Bounded a d) (hw : Unbroken word) {cursor : Nat}
    (hs : bytes a ≤ cursor) (ht : cursor ≤ bytes a + bytes word) :
    wordAt (a ++ (word ++ d)) cursor = ⟨word, bytes a, bytes a + bytes word⟩ := by
  obtain ⟨u, v, rfl, hc⟩ := exists_splitFloor_between d hs ht
  exact wordAt_of_splitFloor hc hb (fun c hc => hw c (List.mem_append_left v hc))
    fun c hc => hw c (List.mem_append_right u hc)

theorem wordAt_append {a word d : List Char} (hb : Bounded a d) (hw : Unbroken word) :
    wordAt (a ++ word ++ d) (bytes (a ++ word)) = ⟨word, bytes a, bytes a + bytes word⟩ := by
  rw [List.append_assoc, bytes_append]
  exact wordAt_between hb hw (Nat.le_add_right _ _) (Nat.le_refl _)

theorem bounded_iff {a d : List Char} : Bounded a d ↔
    (∀ c ∈ a.getLast?, isBoundary c) ∧ ∀ c ∈ d.head?, isBoundary c := by
  have ha : takeEnd (!isBoundary ·) a = [] ↔ ∀ c ∈ a.getLast?, isBoundary c := by
    rw [takeEnd_eq_nil_iff]
    simp
  have hd : d.takeWhile (!isBoundary ·) = [] ↔ ∀ c ∈ d.head?, isBoundary c := by
    rw [takeWhile_eq_nil_iff]
    simp
  rw [← ha, ← hd]
  exact ⟨fun h => ⟨h.before, h.after⟩, fun h => ⟨h.1, h.2⟩⟩

/-- The word stands between its ends in the text. No boundary is in it, and one is right before and
right after it where the text does not begin or end. -/
structure Word.Maximal (w : Word) (cs : List Char) : Prop where
  unbroken : Unbroken w.text
  edges : ∃ before after, cs = before ++ (w.text ++ after) ∧ w.start = bytes before ∧
    w.stop = bytes before + bytes w.text ∧ (∀ c ∈ before.getLast?, isBoundary c) ∧
    ∀ c ∈ after.head?, isBoundary c

theorem maximal_wordAt (cs : List Char) (cursor : Nat) : (wordAt cs cursor).Maximal cs := by
  obtain ⟨a, d, hcs, ha, hs, hb, hw⟩ := exists_wordAt cs cursor
  obtain ⟨hbefore, hafter⟩ := bounded_iff.1 hb
  exact ⟨hw, a, d, hcs, ha.symm, by rw [hs, ha], hbefore, hafter⟩

theorem Word.Maximal.wordAt_eq {w : Word} {cs : List Char} (h : w.Maximal cs) {cursor : Nat}
    (hs : w.start ≤ cursor) (ht : cursor ≤ w.stop) : wordAt cs cursor = w := by
  obtain ⟨hw, a, d, hcs, hstart, hstop, hbefore, hafter⟩ := h
  rw [hstart] at hs
  rw [hstop] at ht
  rw [hcs, wordAt_between (bounded_iff.2 ⟨hbefore, hafter⟩) hw hs ht, ← hstop, ← hstart]

/-- The word at a cursor is as long as can be: it stands between two positions with the cursor, moved
back into a position, between them or at one of them, has no boundary inside and one at each end that
is not an end of the text. From every cursor in it or at its ends it is found again. -/
theorem wordAt_maximal (cs : List Char) (cursor : Nat) :
    let w := wordAt cs cursor
    w.Maximal cs ∧ isPosition cs w.start ∧ isPosition cs w.stop ∧
      slice? cs w.start w.stop = some w.text ∧
      w.start ≤ floor cs cursor ∧ floor cs cursor ≤ w.stop ∧ w.stop ≤ bytes cs ∧
      ∀ cursor', w.start ≤ cursor' → cursor' ≤ w.stop → wordAt cs cursor' = w := by
  intro w
  have hmax : w.Maximal cs := maximal_wordAt cs cursor
  obtain ⟨a, d, hcs, hstart, hstop, -⟩ := hmax.edges
  have hp : isPosition cs w.start := by
    rw [hstart, hcs]
    exact isPosition_append a (w.text ++ d)
  have hq : isPosition cs w.stop := by
    rw [hstop, ← bytes_append, hcs, ← List.append_assoc]
    exact isPosition_append (a ++ w.text) d
  have hslice : slice? cs w.start w.stop = some w.text := by
    rw [hstart, hstop, hcs, slice?_append]
  have hfloor : w.start ≤ floor cs cursor ∧ floor cs cursor ≤ w.stop := by
    rw [← bytes_splitFloor]
    exact ⟨Nat.sub_le _ _, Nat.le_add_right _ _⟩
  exact ⟨hmax, hp, hq, hslice, hfloor.1, hfloor.2, le_bytes_of_isPosition hq,
    fun cursor' => hmax.wordAt_eq⟩

/-- A word with letters of two bytes, from inside one of them and again from inside another. -/
theorem wordAt_maximal_inside :
    wordAt "f(hé-é, 1)".toList 4 = ⟨['h', 'é', '-', 'é'], 2, 8⟩ ∧
      wordAt "f(hé-é, 1)".toList 7 = ⟨['h', 'é', '-', 'é'], 2, 8⟩ := by
  have h : wordAt "f(hé-é, 1)".toList 4 = ⟨['h', 'é', '-', 'é'], 2, 8⟩ := by rfl
  obtain ⟨-, -, -, -, -, -, -, hsame⟩ := wordAt_maximal "f(hé-é, 1)".toList 4
  rw [h] at hsame
  exact ⟨h, hsame 7 (by decide) (by decide)⟩

theorem not_isBoundary_of_isNameChar {c : Char} (h : isNameChar c) : isBoundary c = false := by
  have hm : boundaryMarks.all (!isNameChar ·) := by decide
  have hc : c ∉ boundaryMarks := fun hc => by simpa [h] using List.all_eq_true.1 hm c hc
  simp [isBoundary, not_white_of_isNameChar h, hc]

theorem not_isAlpha_of_isBoundary {c : Char} (h : isBoundary c) : c.isAlpha = false := by
  rw [isBoundary, Bool.or_eq_true] at h
  obtain hw | hm := h
  · have ha := not_isAlphabetic_of_white hw
    by_contra hc
    rw [Bool.not_eq_false] at hc
    have hl : c.toNat < 0x80 := by
      have := bounds_of_isAsciiLetter hc
      omega
    rw [isAlphabetic, if_pos hl, isAsciiLetter, hc] at ha
    cases ha
  · have hd : boundaryMarks.all (!·.isAlpha) := by decide
    simpa using List.all_eq_true.1 hd c (List.contains_iff_mem.1 hm)

theorem isBoundary_toLower {c : Char} (h : isBoundary c.toLower) : isBoundary c := by
  by_cases hu : c.isUpper
  · have ha := not_isAlpha_of_isBoundary h
    rw [Char.isAlpha_toLower_eq_isAlpha, Char.isAlpha, hu] at ha
    cases ha
  · rwa [Char.toLower_eq_of_not_isUpper hu] at h

theorem toLower_eq_of_isBoundary {c : Char} (h : isBoundary c) : c.toLower = c := by
  refine Char.toLower_eq_of_not_isUpper fun hu => ?_
  have ha := not_isAlpha_of_isBoundary h
  rw [Char.isAlpha, hu] at ha
  cases ha

theorem unbroken_of_map_toLower {a b : List Char} (h : a.map Char.toLower = b.map Char.toLower)
    (hb : Unbroken b) : Unbroken a := by
  intro c hc
  by_contra hi
  rw [Bool.not_eq_false] at hi
  have hm : c.toLower ∈ b.map Char.toLower := h ▸ List.mem_map_of_mem hc
  obtain ⟨d, hd, hdc⟩ := List.mem_map.1 hm
  rw [toLower_eq_of_isBoundary hi] at hdc
  have hbd := isBoundary_toLower (hdc ▸ hi : isBoundary d.toLower)
  rw [hb d hd] at hbd
  cases hbd

end Tether.Complete
