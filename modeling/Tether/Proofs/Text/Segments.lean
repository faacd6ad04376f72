import Tether.Text.Split

/-! The segments of a dotted path. Splitting a path at its dots and joining segments without dots
undo each other. -/
namespace Tether.Text

theorem partsFrom_singleton (c : Char) (done : List (List Char)) (part cs : List Char) :
    partsFrom [c] done part 0 cs =
      done.reverse ++ (cs.splitOn c).modifyHead (part.reverse ++ ·) := by
  induction cs generalizing done part with
  | nil => simp [partsFrom]
  | cons d ds ih =>
    rw [partsFrom, List.splitOn_cons_eq_if_modifyHead]
    by_cases h : d = c
    · subst h
      have hi : (ds.splitOn d).modifyHead (fun l => l) = ds.splitOn d := by
        cases ds.splitOn d <;> rfl
      simp [ih, hi]
    · have hp : [c].isPrefixOf (d :: ds) = false := by simp [List.isPrefixOf, Ne.symm h]
      rw [if_neg (by simp [hp]), if_neg (by simpa using h), ih, List.modifyHead_modifyHead]
      congr 2
      funext l
      simp

theorem parts_singleton (c : Char) (cs : List Char) : parts [c] cs = cs.splitOn c := by
  rw [parts, partsFrom_singleton]
  cases cs.splitOn c <;> rfl

theorem length_parts_singleton (c : Char) (cs : List Char) :
    (parts [c] cs).length = cs.count c + 1 := by
  rw [parts_singleton]
  induction cs with
  | nil => rfl
  | cons d ds ih =>
    rw [List.splitOn_cons_eq_if_modifyHead, List.count_cons]
    split
    · rw [List.length_cons, ih]
    · rw [List.length_modifyHead, ih, Nat.add_zero]

theorem join_cons {sep a : List Char} {as : List (List Char)} (h : as ≠ []) :
    join sep (a :: as) = a ++ (sep ++ join sep as) := by
  cases as with
  | nil => cases h rfl
  | cons b bs => simp [join]

theorem join_eq_intercalate (sep : List Char) (ps : List (List Char)) :
    join sep ps = sep.intercalate ps := by
  induction ps with
  | nil => rfl
  | cons p ps ih =>
    cases ps with
    | nil => simp [join]
    | cons q qs =>
      rw [List.intercalate_cons_cons, ← ih, join_cons (List.cons_ne_nil q qs), List.append_assoc]

theorem toList_dotted (name : String) (names : List String) :
    (dotted (name :: names)).toList = name.toList ++ names.flatMap fun m => '.' :: m.toList := by
  simp [dotted, join, List.flatMap_map]

theorem mem_dotted {names : List String} {c : Char} (hc : c ∈ (dotted names).toList) :
    c = '.' ∨ ∃ n ∈ names, c ∈ n.toList := by
  cases names with
  | nil => simp [dotted, join] at hc
  | cons n ns =>
    rw [toList_dotted, List.mem_append, List.mem_flatMap] at hc
    rcases hc with hc | ⟨m, hm, hc⟩
    · exact .inr ⟨n, List.mem_cons_self, hc⟩
    · exact (List.mem_cons.1 hc).imp_right fun hc => ⟨m, List.mem_cons_of_mem n hm, hc⟩

theorem dotted_segments (s : String) : dotted (segments s) = s := by
  simp [dotted, segments, join_eq_intercalate, parts_singleton, Function.comp_def]

theorem segments_dotted {names : List String} (h : ∀ n ∈ names, '.' ∉ n.toList)
    (hn : names ≠ []) : segments (dotted names) = names := by
  have hs : (['.'].intercalate (names.map String.toList)).splitOn '.' = names.map String.toList :=
    List.splitOn_intercalate '.' (by simpa using h) (by simpa using hn)
  rw [segments, dotted, String.toList_ofList, join_eq_intercalate, parts_singleton, hs]
  simp [Function.comp_def]

theorem segments_append (s t : String) : segments (s ++ "." ++ t) = segments s ++ segments t := by
  simp [segments, parts_singleton, List.splitOn_append_cons_self]

theorem segments_ne_nil (s : String) : segments s ≠ [] := by
  simp [segments, parts_singleton, List.splitOn_ne_nil]

theorem segments_of_not_mem {s : String} (h : '.' ∉ s.toList) : segments s = [s] := by
  simp [segments, parts_singleton, List.splitOn_eq_singleton h]

end Tether.Text
