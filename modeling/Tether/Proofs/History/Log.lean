import Tether.History.Log

/-! The entries that browsing comes to. -/
namespace Tether.History
variable {h : History} {start i : Nat} {filter : Option Mode}

theorem of_prev? (hi : h.prev? start filter = some i) : i < start ∧ i < h.length := by
  have hm := List.mem_of_find?_eq_some hi
  rw [List.mem_reverse, List.mem_range] at hm
  omega

theorem of_next? (hi : h.next? start filter = some i) : start < i ∧ i < h.length := by
  have hm := List.mem_range.1 (List.mem_of_find?_eq_some hi)
  have hp := List.find?_some hi
  simp only [Bool.and_eq_true, decide_eq_true_eq] at hp
  exact ⟨hp.1, hm⟩

theorem has_of_prev? (hi : h.prev? start filter = some i) : h.has filter i := List.find?_some hi

theorem has_of_next? (hi : h.next? start filter = some i) : h.has filter i := by
  have hp := List.find?_some hi
  simp only [Bool.and_eq_true] at hp
  exact hp.2

theorem get_of_lt (hi : i < h.length) : ∃ e, h.get i = .ok e :=
  ⟨h.entries[i], by rw [get, List.getElem?_eq_getElem hi]⟩

theorem lt_of_get {e : HistoryEntry} (he : h.get i = .ok e) : i < h.length := by
  rw [get] at he
  split at he
  next e hi => exact (List.getElem?_eq_some_iff.1 hi).1
  · cases he

theorem lt_of_has (hi : h.has filter i) : i < h.length := by
  rw [has] at hi
  split at hi
  next e he => exact (List.getElem?_eq_some_iff.1 he).1
  · cases hi

theorem get_of_has {mode : Mode} (hi : h.has (some mode) i) :
    ∃ e, h.get i = .ok e ∧ e.mode = mode := by
  rw [has] at hi
  split at hi
  next e he =>
    have hm : mode = e.mode := by simpa using hi
    exact ⟨e, by rw [get, he], hm.symm⟩
  · cases hi

theorem isSome_prev? (hi : h.has filter i) (hs : i < start) : (h.prev? start filter).isSome := by
  have hl := lt_of_has hi
  have hm : i ∈ (List.range (min start h.length)).reverse := by
    rw [List.mem_reverse, List.mem_range]
    omega
  rw [prev?, List.find?_isSome]
  exact ⟨i, hm, hi⟩

end Tether.History
