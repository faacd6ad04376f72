import Tether.Proofs.Text.Split

/-! The first and the last word of a text, a word being a run of characters that meet `p` and the
gap beside it a run of characters that do not. Reading backward is reading the reversed text forward
(`FirstWord.reverse`). -/
namespace Tether.Text

/-- A text that begins with a gap and the word after it. The word goes on for as long as can be, and
without one there is nothing but the gap. -/
structure FirstWord (p : Char → Bool) (gap word rest : List Char) : Prop where
  apart : ∀ c ∈ gap, p c = false
  solid : ∀ c ∈ word, p c
  edge : ∀ c ∈ rest.head?, p c = false
  found : word = [] → rest = []

/-- A text that ends with a word and the gap after it. The word begins as early as can be, and
without one there is nothing but the gap. -/
structure LastWord (p : Char → Bool) (lead word gap : List Char) : Prop where
  apart : ∀ c ∈ gap, p c = false
  solid : ∀ c ∈ word, p c
  edge : ∀ c ∈ lead.getLast?, p c = false
  found : word = [] → lead = []

variable {p : Char → Bool} {lead gap word rest : List Char}

theorem exists_firstWord (p : Char → Bool) (cs : List Char) :
    ∃ gap word rest, cs = gap ++ (word ++ rest) ∧ FirstWord p gap word rest := by
  have hcs : cs.takeWhile (!p ·) ++ cs.dropWhile (!p ·) = cs := List.takeWhile_append_dropWhile
  have hafter : (cs.dropWhile (!p ·)).takeWhile p ++ (cs.dropWhile (!p ·)).dropWhile p =
      cs.dropWhile (!p ·) := List.takeWhile_append_dropWhile
  refine ⟨cs.takeWhile (!p ·), (cs.dropWhile (!p ·)).takeWhile p, (cs.dropWhile (!p ·)).dropWhile p,
    ?_, ?_, ?_, head?_dropWhile p _, ?_⟩
  · rw [hafter, hcs]
  · intro c hc
    simpa using List.mem_takeWhile_imp hc
  · intro c hc
    exact List.mem_takeWhile_imp hc
  · -- a character behind the gap meets `p`, so it is in the word
    intro hw
    cases hd : cs.dropWhile (!p ·) with
    | nil => rfl
    | cons c ds =>
      have hc : p c = true := by
        simpa using head?_dropWhile (!p ·) cs c (by rw [hd]; rfl)
      rw [hd, List.takeWhile_cons_of_pos hc] at hw
      cases hw

theorem FirstWord.reverse (h : FirstWord p gap word rest) :
    LastWord p rest.reverse word.reverse gap.reverse where
  apart := fun c hc => h.apart c (List.mem_reverse.1 hc)
  solid := fun c hc => h.solid c (List.mem_reverse.1 hc)
  edge := fun c hc => h.edge c (by rwa [List.getLast?_reverse] at hc)
  found := fun hw => List.reverse_eq_nil_iff.2 (h.found (List.reverse_eq_nil_iff.1 hw))

theorem exists_lastWord (p : Char → Bool) (cs : List Char) :
    ∃ lead word gap, cs = lead ++ (word ++ gap) ∧ LastWord p lead word gap := by
  obtain ⟨gap, word, rest, hcs, h⟩ := exists_firstWord p cs.reverse
  refine ⟨rest.reverse, word.reverse, gap.reverse, ?_, h.reverse⟩
  rw [← List.reverse_reverse cs, hcs]
  simp

namespace FirstWord

theorem takeWhile_gap (h : FirstWord p gap word rest) :
    (gap ++ (word ++ rest)).takeWhile (!p ·) = gap := by
  refine takeWhile_append_of_stop (fun c hc => by simp [h.apart c hc]) fun c hc => ?_
  cases word with
  | nil =>
    rw [h.found rfl] at hc
    cases hc
  | cons d ds =>
    cases hc
    simp [h.solid c (List.mem_cons_self ..)]

theorem dropWhile_gap (h : FirstWord p gap word rest) :
    (gap ++ (word ++ rest)).dropWhile (!p ·) = word ++ rest := by
  have ha : (gap ++ (word ++ rest)).takeWhile (!p ·) ++ (gap ++ (word ++ rest)).dropWhile (!p ·) =
      gap ++ (word ++ rest) := List.takeWhile_append_dropWhile
  rw [h.takeWhile_gap] at ha
  exact List.append_cancel_left ha

theorem takeWhile_word (h : FirstWord p gap word rest) : (word ++ rest).takeWhile p = word :=
  takeWhile_append_of_stop h.solid h.edge

end FirstWord

namespace LastWord

theorem dropEnd_gap (h : LastWord p lead word gap) :
    dropEnd (!p ·) (lead ++ (word ++ gap)) = lead ++ word := by
  have hlast : ∀ c ∈ (lead ++ word).getLast?, (!p c) = false := by
    intro c hc
    by_cases hw : word = []
    · rw [h.found hw, hw] at hc
      cases hc
    · rw [List.getLast?_append_of_ne_nil _ hw] at hc
      simp [h.solid c (List.mem_of_getLast? hc)]
  rw [← List.append_assoc, dropEnd_append_of_pos fun c hc => by simp [h.apart c hc]]
  exact dropEnd_eq_self hlast

theorem dropEnd_word (h : LastWord p lead word gap) : dropEnd p (lead ++ word) = lead := by
  rw [dropEnd_append_of_pos h.solid]
  exact dropEnd_eq_self h.edge

end LastWord

end Tether.Text
