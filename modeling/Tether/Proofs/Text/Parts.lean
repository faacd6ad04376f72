import Tether.Proofs.Text.Segments

/-! The parts of a text between separators. What the scan finds are the leftmost separators, none of
which overlaps another (`parted_parts`), so that no part holds one and the parts with separators
between them are the text. -/
namespace Tether.Text

/-- In `part` followed by `rest`, the separator begins nowhere inside `part`. -/
def Clear (sep part rest : List Char) : Prop :=
  ∀ lead, lead ++ sep <+: part ++ rest → part.length ≤ lead.length

/-- The parts of a text: each of them ends where the separator first stands, and the next one begins
behind it. -/
inductive Parted (sep : List Char) : List (List Char) → List Char → Prop
  | last {part : List Char} (h : ¬ sep <:+: part) : Parted sep [part] part
  | cons {part rest : List Char} {parts : List (List Char)} (h : Clear sep part (sep ++ rest))
      (hr : Parted sep parts rest) : Parted sep (part :: parts) (part ++ (sep ++ rest))

variable {sep part rest cs : List Char} {parts : List (List Char)}

theorem clear_nil (sep rest : List Char) : Clear sep [] rest := fun lead _ => lead.length.zero_le

theorem Clear.concat {c : Char} (h : Clear sep part (c :: rest)) (hc : ¬ sep <+: c :: rest) :
    Clear sep (part ++ [c]) rest := by
  intro lead hl
  rw [List.append_assoc, List.singleton_append] at hl
  have hle := h lead hl
  obtain ⟨more, hm⟩ := hl
  rw [List.append_assoc] at hm
  have hne : lead.length ≠ part.length := by
    intro he
    exact hc ⟨more, (List.append_inj hm he).2⟩
  rw [List.length_append, List.length_singleton]
  omega

theorem Clear.not_infix (h : Clear sep part rest) (hs : sep ≠ []) : ¬ sep <:+: part := by
  rintro ⟨lead, more, rfl⟩
  have hle := h lead ⟨more ++ rest, by simp⟩
  have hpos := List.length_pos_iff.2 hs
  simp only [List.length_append] at hle
  omega

theorem Parted.ne_nil (h : Parted sep parts cs) : parts ≠ [] := by
  cases h with
  | last h => exact List.cons_ne_nil _ _
  | cons h hr => exact List.cons_ne_nil _ _

theorem Parted.join_eq (h : Parted sep parts cs) : join sep parts = cs := by
  induction h with
  | last h => simp [join]
  | cons h hr ih => rw [join_cons hr.ne_nil, ih]

theorem Parted.not_infix (h : Parted sep parts cs) (hs : sep ≠ []) : ∀ p ∈ parts, ¬ sep <:+: p := by
  induction h with
  | last h => exact List.forall_mem_singleton.2 h
  | cons h hr ih => exact List.forall_mem_cons.2 ⟨h.not_infix hs, ih⟩

/-- Of two separators that are both the first one, neither begins before the other. -/
theorem Parted.unique (h : Parted sep parts cs) {parts' : List (List Char)}
    (h' : Parted sep parts' cs) : parts = parts' := by
  induction h generalizing parts' with
  | @last part h =>
    generalize he : part = cs at h'
    cases h' with
    | last h' => rfl
    | cons h' hr => exact absurd ⟨_, _, by rw [he, List.append_assoc]⟩ h
  | @cons part rest parts h hr ih =>
    generalize he : part ++ (sep ++ rest) = cs at h'
    cases h' with
    | last h' => exact absurd ⟨_, _, by rw [← he, List.append_assoc]⟩ h'
    | @cons part' rest' parts' h' hr' =>
      have hle := h part' ⟨rest', by rw [he, List.append_assoc]⟩
      have hge := h' part ⟨rest, by rw [← he, List.append_assoc]⟩
      obtain ⟨rfl, ht⟩ := List.append_inj he (Nat.le_antisymm hle hge)
      rw [ih (List.append_cancel_left ht ▸ hr')]

theorem parted_partsFrom (hs : sep ≠ []) (done : List (List Char)) {n : Nat}
    (h : Clear sep part.reverse (cs.drop n)) :
    ∃ parts, partsFrom sep done part n cs = done.reverse ++ parts ∧
      Parted sep parts (part.reverse ++ cs.drop n) := by
  fun_induction partsFrom sep done part n cs with
  | case1 done part n =>
    rw [List.drop_nil] at h ⊢
    refine ⟨[part.reverse], by simp, ?_⟩
    rw [List.append_nil]
    exact .last (h.not_infix hs)
  | case2 done part n c cs ih => exact ih h
  | case3 done part c cs hp ih =>
    obtain ⟨rest, hr⟩ := List.isPrefixOf_iff_prefix.1 hp
    have hd : cs.drop (sep.length - 1) = rest := by
      obtain ⟨s, ss, rfl⟩ := List.exists_cons_of_ne_nil hs
      rw [List.cons_append, List.cons.injEq] at hr
      simp [← hr.2]
    obtain ⟨parts, he, hps⟩ := ih (clear_nil sep _)
    rw [hd, List.reverse_nil, List.nil_append] at hps
    rw [List.drop_zero, ← hr] at h ⊢
    exact ⟨part.reverse :: parts, by simp [he], .cons h hps⟩
  | case4 done part c cs hp ih =>
    rw [List.isPrefixOf_iff_prefix] at hp
    simpa using ih (by simpa using Clear.concat h hp)

theorem parted_parts (hs : sep ≠ []) (cs : List Char) : Parted sep (Text.parts sep cs) cs := by
  have h : Clear sep ([] : List Char).reverse (cs.drop 0) := clear_nil sep cs
  obtain ⟨parts, he, hp⟩ := parted_partsFrom hs [] h
  rw [Text.parts, he]
  exact hp

theorem parted_iff (hs : sep ≠ []) : Parted sep parts cs ↔ Text.parts sep cs = parts := by
  constructor
  · exact fun h => (parted_parts hs cs).unique h
  · rintro rfl
    exact parted_parts hs cs

end Tether.Text
