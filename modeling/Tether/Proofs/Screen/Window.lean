import Tether.Screen.Window
import Mathlib

/-! The window on a row of entries holds the selected one and wastes no room: `choose_tight`. All of
it rests on the sign for more entries being no wider than the gap that the next entry would need.
So no window costs more than all entries together, and no count goes around if theirs does not. -/
namespace Tether.Screen

def Countable (widths : List Nat) : Prop := spanWidth widths < countLimit

instance (widths : List Nat) : Decidable (Countable widths) :=
  inferInstanceAs (Decidable (spanWidth widths < countLimit))

theorem counted_eq {n : Nat} (h : n < countLimit) : counted n = n := Nat.mod_eq_of_lt h

theorem moreWidth_le_gapWidth : moreWidth ≤ gapWidth := Nat.le_refl 2

theorem spanWidth_append {a b : List Nat} (ha : a ≠ []) (hb : b ≠ []) :
    spanWidth (a ++ b) = spanWidth a + gapWidth + spanWidth b := by
  induction a with
  | nil => exact absurd rfl ha
  | cons w a ih =>
    cases a with
    | nil =>
      obtain ⟨v, b, rfl⟩ := List.exists_cons_of_ne_nil hb
      rfl
    | cons v a =>
      have := ih (List.cons_ne_nil v a)
      simp only [List.cons_append, spanWidth] at this ⊢
      omega

namespace Window

def shown (widths : List Nat) (w : Window) : List Nat := (widths.take (w.last + 1)).drop w.first

def leftSign (first : Nat) : Nat := if 0 < first then moreWidth else 0

def rightSign (widths : List Nat) (last : Nat) : Nat :=
  if last < widths.length - 1 then moreWidth else 0

/-- The columns that a window takes with its signs. -/
def cost (widths : List Nat) (w : Window) : Nat :=
  leftSign w.first + spanWidth (shown widths w) + rightSign widths w.last

theorem leftSign_le (n : Nat) : leftSign n ≤ gapWidth := by
  rw [leftSign]
  split
  · exact moreWidth_le_gapWidth
  · exact Nat.zero_le _

theorem rightSign_le (widths : List Nat) (n : Nat) : rightSign widths n ≤ gapWidth := by
  rw [rightSign]
  split
  · exact moreWidth_le_gapWidth
  · exact Nat.zero_le _

theorem shown_ne_nil {widths : List Nat} {s e : Nat} (h : s ≤ e) (hs : s < widths.length) :
    shown widths ⟨s, e⟩ ≠ [] := by
  rw [shown, ← List.length_pos_iff, List.length_drop, List.length_take]
  dsimp only
  omega

theorem shown_append (widths : List Nat) {s m e : Nat} (hs : s ≤ m) (hm : m ≤ e) :
    shown widths ⟨s, m⟩ ++ shown widths ⟨m + 1, e⟩ = shown widths ⟨s, e⟩ := by
  have ht : widths.take (m + 1) = (widths.take (e + 1)).take (m + 1) := by
    rw [List.take_take, Nat.min_eq_left (by omega)]
  have hd : (widths.take (e + 1)).drop (m + 1) =
      ((widths.take (e + 1)).drop s).drop (m + 1 - s) := by
    rw [List.drop_drop, show s + (m + 1 - s) = m + 1 by omega]
  simp only [shown]
  rw [ht, hd, List.drop_take, List.take_append_drop]

variable {widths : List Nat} {s m e : Nat}

/-- Entries before a window cost more than the sign that stands for them. -/
theorem cost_first_le (hs : s < m) (hm : m ≤ e) (he : e < widths.length) :
    cost widths ⟨m, e⟩ ≤ cost widths ⟨s, e⟩ := by
  obtain ⟨k, rfl⟩ : ∃ k, m = k + 1 := ⟨m - 1, by omega⟩
  have hk := shown_append widths (show s ≤ k by omega) (show k ≤ e by omega)
  have hspan := spanWidth_append (shown_ne_nil (show s ≤ k by omega) (show s < widths.length by omega))
    (shown_ne_nil hm (show k + 1 < widths.length by omega))
  rw [hk] at hspan
  have := leftSign_le (k + 1)
  simp only [cost]
  omega

/-- Entries after a window cost no less than the sign that stands for them. -/
theorem cost_last_le (hs : s ≤ m) (hm : m < e) (he : e < widths.length) :
    cost widths ⟨s, m⟩ ≤ cost widths ⟨s, e⟩ := by
  have hk := shown_append widths hs (show m ≤ e by omega)
  have hspan := spanWidth_append (shown_ne_nil hs (show s < widths.length by omega))
    (shown_ne_nil (show m + 1 ≤ e by omega) (show m + 1 < widths.length by omega))
  rw [hk] at hspan
  have := rightSign_le widths m
  simp only [cost]
  omega

/-- No window costs more than all entries without a sign. -/
theorem cost_le_spanWidth (hs : s ≤ e) (he : e < widths.length) :
    cost widths ⟨s, e⟩ ≤ spanWidth widths := by
  have hall : cost widths ⟨0, widths.length - 1⟩ = spanWidth widths := by
    simp [cost, shown, leftSign, rightSign, Nat.sub_add_cancel (show 1 ≤ widths.length by omega)]
  calc
    cost widths ⟨s, e⟩ ≤ cost widths ⟨0, e⟩ := by
      rcases Nat.eq_zero_or_pos s with rfl | h0
      · exact Nat.le_refl _
      · exact cost_first_le h0 hs he
    _ ≤ cost widths ⟨0, widths.length - 1⟩ := by
      rcases Nat.eq_or_lt_of_le (show e ≤ widths.length - 1 by omega) with rfl | hlt
      · exact Nat.le_refl _
      · exact cost_last_le (Nat.zero_le e) hlt (by omega)
    _ = spanWidth widths := hall

section Countable
variable (hw : Countable widths)
include hw

theorem counted_cost (hs : s ≤ e) (he : e < widths.length) :
    counted (cost widths ⟨s, e⟩) = cost widths ⟨s, e⟩ :=
  counted_eq (Nat.lt_of_le_of_lt (cost_le_spanWidth hs he) hw)

theorem fitsFrom_iff {selected budget : Nat} (hs : s ≤ selected) (hl : selected < widths.length) :
    fitsFrom widths selected (widths.length - 1) budget s ↔ cost widths ⟨s, selected⟩ ≤ budget := by
  have hc : spanWidth ((widths.take (selected + 1)).drop s) + (if 0 < s then moreWidth else 0) +
      (if selected < widths.length - 1 then moreWidth else 0) = cost widths ⟨s, selected⟩ := by
    rw [cost, Nat.add_comm (leftSign _)]
    rfl
  rw [fitsFrom, decide_eq_true_iff, hc, counted_cost hw hs hl]

theorem start_of_fits {selected budget : Nat} (hl : selected < widths.length)
    (h : cost widths ⟨selected, selected⟩ ≤ budget) :
    let s := start widths selected (widths.length - 1) budget
    s ≤ selected ∧ cost widths ⟨s, selected⟩ ≤ budget ∧
      ∀ r < s, budget < cost widths ⟨r, selected⟩ := by
  cases hf : (List.range (selected + 1)).find?
      (fitsFrom widths selected (widths.length - 1) budget) with
  | none =>
    have hn := List.find?_eq_none.1 hf selected (by simp)
    exact absurd ((fitsFrom_iff hw (Nat.le_refl selected) hl).2 h) hn
  | some s =>
    simp only [start, hf, Option.getD_some]
    obtain ⟨hs, hm, hf⟩ := List.find?_range_eq_some.1 hf
    rw [List.mem_range] at hm
    refine ⟨by omega, (fitsFrom_iff hw (by omega) hl).1 hs, fun r hr => ?_⟩
    have := mt (fitsFrom_iff hw (show r ≤ selected by omega) hl).2 (by simpa using hf r hr)
    omega

/-- An entry that does not fit alone does not fit with others either. -/
theorem start_of_not_fits {selected budget : Nat} (hs : selected < widths.length)
    (h : budget < cost widths ⟨selected, selected⟩) :
    start widths selected (widths.length - 1) budget = selected := by
  rw [start, List.find?_eq_none.2, Option.getD_none]
  intro r hr hf
  rw [List.mem_range] at hr
  have hc := (fitsFrom_iff hw (by omega) hs).1 hf
  by_cases he : r = selected
  · rw [he] at hc
    omega
  · have := cost_first_le (show r < selected by omega) (Nat.le_refl selected) hs
    omega

end Countable

def HasRoom (widths : List Nat) (room s e : Nat) : Prop :=
  spanWidth (shown widths ⟨s, e⟩) + rightSign widths e ≤ room

theorem spanWidth_shown_succ {w : Nat} {ws : List Nat} (hs : s ≤ e)
    (hd : widths.drop (e + 1) = w :: ws) :
    spanWidth (shown widths ⟨s, e + 1⟩) = spanWidth (shown widths ⟨s, e⟩) + (w + gapWidth) := by
  have hlt : e + 1 < widths.length := by
    have := congrArg List.length hd
    simp only [List.length_drop, List.length_cons] at this
    omega
  have hw : shown widths ⟨e + 1, e + 1⟩ = [w] := by
    simp only [shown]
    rw [List.drop_take, hd, show e + 1 + 1 - (e + 1) = 1 by omega]
    rfl
  rw [← shown_append widths hs (Nat.le_succ e), spanWidth_append
    (shown_ne_nil hs (by omega)) (by rw [hw]; exact List.cons_ne_nil w []), hw, spanWidth]
  omega

section Countable
variable (hw : Countable widths)
include hw

/-- The entries are taken one by one, up to the first one for which there is no room. -/
theorem exists_extend {room used gap i reached : Nat} {ws : List Nat} (hd : widths.drop i = ws)
    (hs : s ≤ i) (hi : i ≤ widths.length)
    (hu : ∀ w ∈ ws.head?, used + (w + gap) = spanWidth (shown widths ⟨s, i⟩)) :
    ∃ j, i ≤ j ∧ j ≤ widths.length ∧ (∀ k, i ≤ k → k < j → HasRoom widths room s k) ∧
      (j < widths.length → ¬ HasRoom widths room s j) ∧
      extend room (widths.length - 1) used gap i reached ws = if j = i then reached else j - 1 := by
  induction ws generalizing i used gap reached with
  | nil =>
    have := List.drop_eq_nil_iff.1 hd
    exact ⟨i, Nat.le_refl i, hi, fun k _ _ => by omega, fun _ => by omega, by rw [extend, if_pos rfl]⟩
  | cons w ws ih =>
    have hlt : i < widths.length := by
      have := congrArg List.length hd
      simp only [List.length_drop, List.length_cons] at this
      omega
    have htail : widths.drop (i + 1) = ws := by
      rw [← List.drop_drop, hd]
      rfl
    have hx : extend room (widths.length - 1) used gap i reached (w :: ws) =
        if spanWidth (shown widths ⟨s, i⟩) + rightSign widths i ≤ room then
          extend room (widths.length - 1) (spanWidth (shown widths ⟨s, i⟩)) gapWidth (i + 1) i ws
        else reached := by
      have hc := cost_le_spanWidth hs hlt
      rw [extend, hu w rfl, counted_eq]
      · rfl
      · change spanWidth (shown widths ⟨s, i⟩) + rightSign widths i < _
        rw [cost] at hc
        exact Nat.lt_of_le_of_lt (by dsimp only at hc; omega) hw
    rw [hx]
    split
    next hr =>
      have hu' : ∀ v ∈ ws.head?, spanWidth (shown widths ⟨s, i⟩) + (v + gapWidth) =
          spanWidth (shown widths ⟨s, i + 1⟩) := by
        intro v hv
        obtain ⟨vs, rfl⟩ := List.head?_eq_some_iff.1 hv
        exact (spanWidth_shown_succ hs htail).symm
      obtain ⟨j, hij, hj, hk, hn, he⟩ := ih htail (Nat.le_succ_of_le hs) hlt hu'
      refine ⟨j, by omega, hj, fun k hik hkj => ?_, hn, ?_⟩
      · by_cases hx : k = i
        · rwa [hx]
        · exact hk k (by omega) hkj
      · rw [he, if_neg (show j ≠ i by omega)]
        split
        · omega
        · rfl
    next hr =>
      exact ⟨i, Nat.le_refl i, hi, fun k _ _ => by omega, fun _ => hr, by rw [if_pos rfl]⟩

theorem choose_eq {sel budget : Nat} (hs : sel < widths.length) (h : budget < spanWidth widths) :
    let first := start widths sel (widths.length - 1) budget
    choose widths sel budget = ⟨first, extend (budget - leftSign first) (widths.length - 1) 0 0
      first first (widths.drop first)⟩ := by
  rw [choose, counted_eq hw, if_neg (by omega), Nat.min_eq_left (by omega)]
  rfl

theorem exists_last {first : Nat} (budget : Nat) (hf : first < widths.length) :
    ∃ j, first ≤ j ∧ j ≤ widths.length ∧
      (∀ k, first ≤ k → k < j → HasRoom widths (budget - leftSign first) first k) ∧
      (j < widths.length → ¬ HasRoom widths (budget - leftSign first) first j) ∧
      extend (budget - leftSign first) (widths.length - 1) 0 0 first first (widths.drop first) =
        if j = first then first else j - 1 := by
  refine exists_extend hw rfl (Nat.le_refl first) (Nat.le_of_lt hf) fun w hw => ?_
  obtain ⟨ws, hd⟩ := List.head?_eq_some_iff.1 hw
  rw [shown, List.drop_take, hd, show first + 1 - first = 1 by omega]
  simp [spanWidth]

omit hw in
theorem hasRoom_iff {budget : Nat} (hl : leftSign s ≤ budget) :
    HasRoom widths (budget - leftSign s) s e ↔ cost widths ⟨s, e⟩ ≤ budget := by
  simp only [HasRoom, cost]
  omega

/-- Where the selected entry fits, its window is in the budget and cannot be made longer. -/
theorem choose_of_fits {sel budget : Nat} (hs : sel < widths.length)
    (h : budget < spanWidth widths) (hc : cost widths ⟨sel, sel⟩ ≤ budget) :
    let w := choose widths sel budget
    (w.first ≤ sel ∧ sel ≤ w.last ∧ w.last ≤ widths.length - 1) ∧ cost widths w ≤ budget ∧
      (∀ r < w.first, budget < cost widths ⟨r, sel⟩) ∧
      ∀ e, w.last < e → e ≤ widths.length - 1 → budget < cost widths ⟨w.first, e⟩ := by
  obtain ⟨hfirst, hfit, hearly⟩ := start_of_fits hw hs hc
  rw [choose_eq hw hs h]
  generalize start widths sel (widths.length - 1) budget = first at hfirst hfit hearly ⊢
  obtain ⟨j, hj, hlen, hroom, hfull, hx⟩ := exists_last hw budget
    (show first < widths.length by omega)
  have hl : leftSign first ≤ budget := by
    simp only [cost] at hfit
    omega
  -- the entries up to the selected one have room, so the scan goes past it
  have hsel : sel < j := by
    by_contra hj'
    have hm : cost widths ⟨first, j⟩ ≤ budget := by
      by_cases hjs : j = sel
      · rwa [hjs]
      · have := cost_last_le hj (show j < sel by omega) hs
        omega
    exact hfull (by omega) ((hasRoom_iff hl).2 hm)
  rw [hx, if_neg (show j ≠ first by omega)]
  refine ⟨⟨hfirst, by dsimp only; omega, by dsimp only; omega⟩, ?_, hearly, fun e he hlast => ?_⟩
  · exact (hasRoom_iff hl).1 (hroom (j - 1) (by omega) (by omega))
  · dsimp only at he ⊢
    have hn := mt (hasRoom_iff hl).2 (hfull (by omega))
    by_cases hje : j = e
    · rw [← hje]
      omega
    · have := cost_last_le hj (show j < e by omega) (show e < widths.length by omega)
      omega

theorem choose_of_not_fits {sel budget : Nat} (hs : sel < widths.length)
    (h : budget < spanWidth widths) (hc : budget < cost widths ⟨sel, sel⟩) :
    choose widths sel budget = ⟨sel, sel⟩ := by
  rw [choose_eq hw hs h, start_of_not_fits hw hs hc]
  obtain ⟨j, hj, hlen, hroom, hfull, hx⟩ := exists_last hw budget hs
  rw [hx]
  split
  · rfl
  next hne =>
    -- there is room for it only as the last entry, when the sign before it has none itself
    have hr := hroom sel (Nat.le_refl sel) (by omega)
    have hlast : ¬ sel < widths.length - 1 := by
      intro hlt
      simp only [HasRoom, cost, rightSign, if_pos hlt, moreWidth] at hr hc
      omega
    rw [show j - 1 = sel by omega]

/-- What a window has of the room there is. If not everything fits, but the selected entry does,
it starts as early and ends as late as the room allows; else that entry stands alone. -/
structure Tight (widths : List Nat) (sel budget : Nat) (w : Window) : Prop where
  first : w.first ≤ sel
  last : sel ≤ w.last
  length : w.last ≤ widths.length - 1
  all : spanWidth widths ≤ budget → w = ⟨0, widths.length - 1⟩
  fits : budget < spanWidth widths → cost widths ⟨sel, sel⟩ ≤ budget → cost widths w ≤ budget
  early : budget < spanWidth widths → cost widths ⟨sel, sel⟩ ≤ budget →
    ∀ s < w.first, budget < cost widths ⟨s, sel⟩
  late : budget < spanWidth widths → cost widths ⟨sel, sel⟩ ≤ budget →
    ∀ e, w.last < e → e ≤ widths.length - 1 → budget < cost widths ⟨w.first, e⟩
  alone : budget < spanWidth widths → budget < cost widths ⟨sel, sel⟩ → w = ⟨sel, sel⟩

theorem tight_of_lt {sel budget : Nat} (hs : sel < widths.length) :
    Tight widths sel budget (choose widths sel budget) := by
  by_cases hall : spanWidth widths ≤ budget
  · have hx : choose widths sel budget = ⟨0, widths.length - 1⟩ := by
      rw [choose, counted_eq hw, if_pos hall]
    have hn {P : Prop} (h : budget < spanWidth widths) : P := absurd hall (Nat.not_le.2 h)
    rw [hx]
    exact ⟨Nat.zero_le sel, by dsimp only; omega, Nat.le_refl _, fun _ => rfl, fun h _ => hn h,
      fun h _ => hn h, fun h _ => hn h, fun h _ => hn h⟩
  · have h : budget < spanWidth widths := Nat.not_le.1 hall
    by_cases hc : cost widths ⟨sel, sel⟩ ≤ budget
    · obtain ⟨⟨hfirst, hlast, hlen⟩, hfits, hearly, hlate⟩ := choose_of_fits hw hs h hc
      exact ⟨hfirst, hlast, hlen, fun ha => absurd ha hall, fun _ _ => hfits, fun _ _ => hearly,
        fun _ _ => hlate, fun _ hn => absurd hc (Nat.not_le.2 hn)⟩
    · rw [choose_of_not_fits hw hs h (Nat.not_le.1 hc)]
      have hn {P : Prop} (h : cost widths ⟨sel, sel⟩ ≤ budget) : P := absurd h hc
      exact ⟨Nat.le_refl sel, Nat.le_refl sel, by dsimp only; omega, fun ha => absurd ha hall,
        fun _ => hn, fun _ => hn, fun _ => hn, fun _ _ => rfl⟩

end Countable

theorem choose_min (widths : List Nat) (selected budget : Nat) :
    choose widths (min selected (widths.length - 1)) budget = choose widths selected budget := by
  simp only [choose, Nat.min_assoc, Nat.min_self]

/-- The window is tight around the selected entry, which is the last one for a number past the
end, if the columns of all entries can be counted. -/
theorem choose_tight {widths : List Nat} (hne : widths ≠ []) (hw : Countable widths)
    (selected budget : Nat) :
    Tight widths (min selected (widths.length - 1)) budget (choose widths selected budget) := by
  have hlen : 0 < widths.length := List.length_pos_iff.2 hne
  rw [← choose_min]
  exact tight_of_lt hw (by omega)

/-- Four entries, of which the last two fit behind the sign for the others. -/
theorem choose_tight_scrolled :
    let widths := [5, 5, 5, 5]
    widths ≠ [] ∧ Countable widths ∧ choose widths 2 14 = ⟨2, 3⟩ ∧ cost widths ⟨2, 3⟩ ≤ 14 ∧
      ∀ s < 2, 14 < cost widths ⟨s, 2⟩ := by
  intro widths
  have hne : widths ≠ [] := by decide
  have hc : Countable widths := by decide
  have hw : choose widths 2 14 = ⟨2, 3⟩ := by decide
  have h := choose_tight hne hc 2 14
  rw [hw] at h
  exact ⟨hne, hc, hw, h.fits (by decide) (by decide), h.early (by decide) (by decide)⟩

-- A count that goes around makes room where there is none.
example : choose [0xFFFFFFFFFFFFFFFF, 1] 0 10 = ⟨0, 1⟩ := by decide

end Window

end Tether.Screen
