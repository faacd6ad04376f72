import Tether.Text.Offset

/-! The positions of a text: the offsets at which it can be cut in two. -/
namespace Tether.Text

theorem splitAt?_eq_some {cs a b : List Char} {n : Nat} :
    splitAt? cs n = some (a, b) ↔ cs = a ++ b ∧ bytes a = n := by
  constructor
  · exact append_of_splitAt?
  · rintro ⟨rfl, rfl⟩
    exact splitAt?_append a b

theorem isPosition_iff {cs : List Char} {n : Nat} :
    isPosition cs n ↔ ∃ a b, cs = a ++ b ∧ bytes a = n := by
  rw [isPosition]
  rw [Option.isSome_iff_exists]
  constructor
  · rintro ⟨⟨a, b⟩, h⟩
    exact ⟨a, b, splitAt?_eq_some.1 h⟩
  · rintro ⟨a, b, h⟩
    exact ⟨(a, b), splitAt?_eq_some.2 h⟩

theorem isPosition_append (a b : List Char) : isPosition (a ++ b) (bytes a) :=
  isPosition_iff.2 ⟨a, b, rfl, rfl⟩

theorem isPosition_zero (cs : List Char) : isPosition cs 0 := isPosition_append [] cs

theorem isPosition_bytes (cs : List Char) : isPosition cs (bytes cs) := by
  have h := isPosition_append cs []
  rwa [List.append_nil] at h

theorem le_bytes_of_isPosition {cs : List Char} {n : Nat} (h : isPosition cs n) : n ≤ bytes cs := by
  obtain ⟨a, b, rfl, rfl⟩ := isPosition_iff.1 h
  rw [bytes_append]
  omega

theorem isPosition_floor (cs : List Char) (n : Nat) : isPosition cs (floor cs n) := by
  have h := isPosition_append (splitFloor cs n).1 (splitFloor cs n).2
  rwa [splitFloor_append, bytes_splitFloor] at h

theorem isPosition_ceil (cs : List Char) (n : Nat) : isPosition cs (ceil cs n) := by
  induction cs generalizing n with
  | nil => rfl
  | cons c cs ih =>
    cases n with
    | zero => exact isPosition_zero (c :: cs)
    | succ n =>
      obtain ⟨a, b, hs, hb⟩ := isPosition_iff.1 (ih (n + 1 - c.utf8Size))
      refine isPosition_iff.2 ⟨c :: a, b, ?_, ?_⟩
      · rw [hs, List.cons_append]
      · rw [bytes_cons, hb, ceil]

theorem splitFloor_bytes (a b : List Char) : splitFloor (a ++ b) (bytes a) = (a, b) := by
  induction a with
  | nil =>
    cases b with
    | nil => rfl
    | cons c b =>
      have hc : ¬ c.utf8Size ≤ 0 := by
        have := c.utf8Size_pos
        omega
      rw [List.nil_append, bytes_nil, splitFloor, if_neg hc]
  | cons c a ih =>
    have hc : c.utf8Size ≤ bytes (c :: a) := by
      rw [bytes_cons]
      omega
    have hb : bytes (c :: a) - c.utf8Size = bytes a := by
      rw [bytes_cons]
      omega
    rw [List.cons_append, splitFloor, if_pos hc, hb, ih]

theorem exists_splitFloor_of_le {m : List Char} (d : List Char) {n : Nat} (h : n ≤ bytes m) :
    ∃ u v, m = u ++ v ∧ splitFloor (m ++ d) n = (u, v ++ d) := by
  induction m generalizing n with
  | nil =>
    obtain rfl : n = 0 := by simpa using h
    exact ⟨[], [], rfl, splitFloor_bytes [] d⟩
  | cons c m ih =>
    rw [bytes_cons] at h
    by_cases hc : c.utf8Size ≤ n
    · obtain ⟨u, v, rfl, hs⟩ := ih (n := n - c.utf8Size) (by omega)
      refine ⟨c :: u, v, rfl, ?_⟩
      rw [List.cons_append, splitFloor, if_pos hc, hs]
    · refine ⟨[], c :: m, rfl, ?_⟩
      rw [List.cons_append, splitFloor, if_neg hc]

theorem exists_splitFloor_between {a m : List Char} (d : List Char) {n : Nat} (ha : bytes a ≤ n)
    (hm : n ≤ bytes a + bytes m) :
    ∃ u v, m = u ++ v ∧ splitFloor (a ++ (m ++ d)) n = (a ++ u, v ++ d) := by
  induction a generalizing n with
  | nil => exact exists_splitFloor_of_le d (by simpa using hm)
  | cons c a ih =>
    rw [bytes_cons] at ha hm
    obtain ⟨u, v, rfl, hs⟩ := ih (n := n - c.utf8Size) (by omega) (by omega)
    refine ⟨u, v, rfl, ?_⟩
    rw [List.cons_append, splitFloor, if_pos (by omega), hs]
    rfl

theorem floor_of_isPosition {cs : List Char} {n : Nat} (h : isPosition cs n) : floor cs n = n := by
  obtain ⟨a, b, rfl, rfl⟩ := isPosition_iff.1 h
  rw [← bytes_splitFloor, splitFloor_bytes]

theorem bytes_eq_zero {cs : List Char} : bytes cs = 0 ↔ cs = [] := by
  cases cs with
  | nil => simp
  | cons c cs =>
    have hc := c.utf8Size_pos
    simp
    omega

theorem exists_append_of_isPosition {cs : List Char} {start stop : Nat} (hs : isPosition cs start)
    (ht : isPosition cs stop) (h : start ≤ stop) :
    ∃ a m d, cs = a ++ (m ++ d) ∧ bytes a = start ∧ bytes a + bytes m = stop := by
  obtain ⟨a, b, rfl, rfl⟩ := isPosition_iff.1 hs
  obtain ⟨u, d, hu, rfl⟩ := isPosition_iff.1 ht
  rcases List.append_eq_append_iff.1 hu with ⟨m, rfl, rfl⟩ | ⟨m, rfl, rfl⟩
  · exact ⟨a, m, d, rfl, rfl, (bytes_append a m).symm⟩
  · -- the second position is not before the first one, so nothing lies between them
    rw [bytes_append] at h
    have hm : m = [] := bytes_eq_zero.1 (by omega)
    subst hm
    exact ⟨u, [], b, by simp, by simp, by simp⟩

theorem not_isPosition_inside (a b : List Char) {c : Char} {k : Nat} (hk : 0 < k)
    (hc : k < c.utf8Size) : ¬ isPosition (a ++ c :: b) (bytes a + k) := by
  intro h
  obtain ⟨u, v, hu, hb⟩ := isPosition_iff.1 h
  rcases List.append_eq_append_iff.1 hu with ⟨m, rfl, hm⟩ | ⟨m, rfl, hm⟩
  · -- the part before the offset holds a piece of the character, so all of it
    rw [bytes_append] at hb
    cases m with
    | nil =>
      rw [bytes_nil] at hb
      omega
    | cons d m =>
      cases hm
      rw [bytes_cons] at hb
      omega
  · rw [bytes_append] at hb
    omega

theorem floor_le (cs : List Char) (n : Nat) : floor cs n ≤ n := by
  induction cs generalizing n with
  | nil => exact Nat.zero_le n
  | cons c cs ih =>
    rw [floor]
    split
    · have := ih (n - c.utf8Size)
      omega
    · exact Nat.zero_le n

theorem le_ceil {cs : List Char} {n : Nat} (h : n ≤ bytes cs) : n ≤ ceil cs n := by
  induction cs generalizing n with
  | nil => exact h
  | cons c cs ih =>
    cases n with
    | zero => exact Nat.zero_le _
    | succ n =>
      rw [bytes_cons] at h
      have := ih (n := n + 1 - c.utf8Size) (by omega)
      rw [ceil]
      omega

theorem splice?_append (a m d new : List Char) :
    splice? (a ++ (m ++ d)) (bytes a) (bytes a + bytes m) new = some (a ++ new ++ d) := by
  have hs : ¬ bytes a + bytes m < bytes a := by omega
  have hm : bytes a + bytes m - bytes a = bytes m := by omega
  simp [splice?, hs, hm, splitAt?_append]

theorem slice?_of_not_isPosition {cs : List Char} {start : Nat} (h : ¬ isPosition cs start)
    (stop : Nat) : slice? cs start stop = none := by
  rw [isPosition, Option.not_isSome_iff_eq_none] at h
  rw [slice?, h]
  split <;> rfl

theorem slice?_append (a m d : List Char) :
    slice? (a ++ (m ++ d)) (bytes a) (bytes a + bytes m) = some m := by
  have hs : ¬ bytes a + bytes m < bytes a := by omega
  have hm : bytes a + bytes m - bytes a = bytes m := by omega
  simp [slice?, hs, hm, splitAt?_append]

theorem splice?_eq_some {cs new v : List Char} {start stop : Nat} :
    splice? cs start stop new = some v ↔ ∃ a m d, cs = a ++ (m ++ d) ∧ bytes a = start ∧
      bytes a + bytes m = stop ∧ v = a ++ new ++ d := by
  constructor
  · intro h
    rw [splice?] at h
    split at h
    · cases h
    next hle =>
      obtain ⟨⟨a, b⟩, ha, hx⟩ := Option.bind_eq_some_iff.1 h
      obtain ⟨⟨m, d⟩, hm, hv⟩ := Option.bind_eq_some_iff.1 hx
      obtain ⟨rfl, rfl⟩ := splitAt?_eq_some.1 ha
      obtain ⟨rfl, hb⟩ := splitAt?_eq_some.1 hm
      cases hv
      exact ⟨a, m, d, rfl, rfl, by omega, rfl⟩
  · rintro ⟨a, m, d, rfl, rfl, rfl, rfl⟩
    exact splice?_append a m d new

theorem slice?_eq_some {cs m : List Char} {start stop : Nat} :
    slice? cs start stop = some m ↔
      ∃ a d, cs = a ++ (m ++ d) ∧ bytes a = start ∧ bytes a + bytes m = stop := by
  constructor
  · intro h
    rw [slice?] at h
    split at h
    · cases h
    next hle =>
      obtain ⟨⟨a, b⟩, ha, hx⟩ := Option.bind_eq_some_iff.1 h
      obtain ⟨⟨m, d⟩, hm, hv⟩ := Option.bind_eq_some_iff.1 hx
      obtain ⟨rfl, rfl⟩ := splitAt?_eq_some.1 ha
      obtain ⟨rfl, hb⟩ := splitAt?_eq_some.1 hm
      cases hv
      exact ⟨a, d, rfl, rfl, by omega⟩
  · rintro ⟨a, d, rfl, rfl, rfl⟩
    exact slice?_append a m d

theorem floor_inside (a b : List Char) {c : Char} {k : Nat} (hk : k < c.utf8Size) :
    floor (a ++ c :: b) (bytes a + k) = bytes a := by
  induction a with
  | nil => rw [List.nil_append, bytes_nil, Nat.zero_add, floor, if_neg (by omega)]
  | cons d a ih =>
    have hd : d.utf8Size + bytes a + k - d.utf8Size = bytes a + k := by omega
    rw [List.cons_append, bytes_cons, floor, if_pos (by omega), hd, ih]

end Tether.Text
