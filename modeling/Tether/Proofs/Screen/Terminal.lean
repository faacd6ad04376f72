import Tether.Screen.Terminal
import Tether.Proofs.Screen.Wrap

/-! The program sets its text as a pane takes for granted: `lawful_terminal`. -/
namespace Tether.Screen

namespace Row

theorem length_flatMap_places (cs : List Cell) : (cs.flatMap Cell.places).length = columns cs := by
  induction cs with
  | nil => rfl
  | cons c cs ih => rw [List.flatMap_cons, List.length_append, Cell.length_places, ih, columns]

theorem holds_append (width x : Nat) (a b : List Cell) :
    holds width x (a ++ b) = (holds width x a && holds width (x + columns a) b) := by
  induction a generalizing x with
  | nil => simp [holds, columns]
  | cons c a ih => simp [holds, columns, ih, Bool.and_assoc, Nat.add_assoc]

theorem holds_of_le {width x : Nat} {cs : List Cell} (h : x + columns cs ≤ width) :
    holds width x cs := by
  induction cs generalizing x with
  | nil => rfl
  | cons c cs ih =>
    rw [columns] at h
    simp only [holds, ih (x := x + c.width) (by omega), Bool.and_true, Bool.or_eq_true,
      decide_eq_true_eq]
    omega

theorem mem_of_mem_draw {width : Nat} {cs : List Cell} {c : Cell} (h : c ∈ draw width cs) :
    c ∈ cs ∨ c = .blank := by
  rcases List.mem_append.1 (List.mem_of_mem_take h) with h | h
  · obtain ⟨d, hd, hc⟩ := List.mem_flatMap.1 h
    rw [Cell.places] at hc
    split at hc
    · cases hc
    · rcases List.mem_cons.1 hc with rfl | hc
      · exact .inl hd
      · exact .inr (List.eq_of_mem_replicate hc)
  · exact .inr (List.eq_of_mem_replicate h)

theorem mem_draw {width : Nat} {cs : List Cell} {c : Cell} (hc : c ∈ cs) (hw : c.width ≠ 0)
    (h : holds width 0 cs) : c ∈ draw width cs := by
  obtain ⟨a, b, rfl⟩ := List.append_of_mem hc
  have hx : columns a < width := by
    rw [holds_append, holds] at h
    simp only [hw, decide_false, Bool.false_or, Nat.zero_add, Bool.and_eq_true,
      decide_eq_true_eq] at h
    exact h.2.1
  obtain ⟨room, hr⟩ : ∃ room, width - columns a = room + 1 := ⟨width - columns a - 1, by omega⟩
  have hp : c.places = c :: List.replicate (c.width - 1) .blank := if_neg hw
  rw [draw, List.flatMap_append, List.flatMap_cons, hp, List.append_assoc, List.take_append,
    length_flatMap_places, hr]
  simp

end Row

namespace Typesetter

variable {scroll width height : Nat} {lines : List (List Span)} {area : List Row}

theorem draw?_terminal (hw : 0 < width) : terminal.draw? scroll width height lines =
    if (terminal.visible scroll width height lines).all (Row.holds width 0) then
      some (fill width height (terminal.visible scroll width height lines))
    else none := by
  change area? scroll width height lines = _
  rw [area?, if_neg (Nat.ne_of_gt hw)]
  rfl

theorem eq_fill_of_draw? (hw : 0 < width)
    (h : terminal.draw? scroll width height lines = some area) :
    (∀ row ∈ terminal.visible scroll width height lines, Row.holds width 0 row) ∧
      area = fill width height (terminal.visible scroll width height lines) := by
  rw [draw?_terminal hw] at h
  split at h
  next hall => exact ⟨List.all_eq_true.1 hall, (Option.some.inj h).symm⟩
  next => cases h

theorem mem_of_mem_fill {rows : List (List Cell)} {r : Row} {c : Cell}
    (hr : r ∈ fill width height rows) (hc : c ∈ r) (hs : c.style ≠ .plain) :
    ∃ row ∈ rows, c ∈ row := by
  have hb : c ≠ .blank := by
    rintro rfl
    exact hs rfl
  rcases List.mem_append.1 hr with hr | hr
  · obtain ⟨row, hrow, rfl⟩ := List.mem_map.1 hr
    exact ⟨row, hrow, (Row.mem_of_mem_draw hc).resolve_right hb⟩
  · rw [List.eq_of_mem_replicate hr] at hc
    exact absurd (List.eq_of_mem_replicate hc) hb

theorem lawful_terminal : terminal.Lawful where
  blank := by decide +kernel
  width_blank := by decide +kernel
  ordered hw line := wrap_sublist hw _
  filled hw _ h := wrap_of_mem_nil hw h
  skipped hw _ _ h _ hr _ hc hs := by
    rw [(eq_fill_of_draw? hw h).2] at hr
    exact mem_of_mem_fill hr hc hs
  seen hw _ _ h row hr c hc hs := by
    obtain ⟨hall, rfl⟩ := eq_fill_of_draw? hw h
    refine ⟨_, List.mem_append_left _ (List.mem_map_of_mem hr), ?_⟩
    refine Row.mem_draw hc ?_ (hall row hr)
    have hs : 0 < Unicode.width c.symbol := hs
    rw [Cell.width]
    omega

end Typesetter

end Tether.Screen
