import Tether.Screen.Wrap
import Mathlib

/-! Lines broken into rows keep their clusters in order, `wrap_sublist`, and a blank at the end of a
line is kept unless the row before it is full to the edge: `wrap_concat_of_not_atEdge`. -/
namespace Tether.Screen
namespace Wrap
variable {limit : Nat} {w : Wrap} {c : Cell}

def content (w : Wrap) : List Cell := w.line ++ w.space ++ w.word

theorem columns_content (w : Wrap) : columns w.content = w.used := by
  rw [content, columns_append, columns_append, used]

theorem content_settle (w : Wrap) : w.settle.content = w.content := by
  simp [content, settle]

/-- The row being filled, with the word made part of it where the next cluster asks for that. -/
def prepared (limit : Nat) (w : Wrap) (c : Cell) : Wrap :=
  if w.mustSettle limit c then w.settle else w

/-- The row after a row that ends: the word goes on there. -/
def reopened (limit : Nat) (w : Wrap) : Wrap :=
  { w with line := [], space := dropFitting (limit - columns w.line) w.space }

theorem content_prepared (limit : Nat) (w : Wrap) (c : Cell) :
    (w.prepared limit c).content = w.content := by
  rw [prepared]
  split
  · exact content_settle w
  · rfl

theorem used_prepared (limit : Nat) (w : Wrap) (c : Cell) :
    (w.prepared limit c).used = w.used := by
  rw [← columns_content, content_prepared, columns_content]

theorem step_of_lt (h : limit < c.width) : w.step limit c = (none, w) := if_pos h

theorem step_of_le (h : c.width ≤ limit) : w.step limit c =
    if (w.prepared limit c).isFull limit c then
      (some (w.prepared limit c).line,
        if c.isSpace && ((w.prepared limit c).reopened limit).space.isEmpty then
          (w.prepared limit c).reopened limit
        else ((w.prepared limit c).reopened limit).push c)
    else (none, (w.prepared limit c).push c) := by
  rw [step, if_neg (Nat.not_lt.2 h)]
  rfl

theorem dropFitting_suffix (room : Nat) (cs : List Cell) : dropFitting room cs <:+ cs := by
  induction cs generalizing room with
  | nil => exact List.suffix_refl []
  | cons c cs ih =>
    rw [dropFitting]
    split
    · exact (ih _).trans (List.suffix_cons c cs)
    · exact List.suffix_refl _

theorem dropFitting_eq_nil {room : Nat} {cs : List Cell} :
    dropFitting room cs = [] ↔ columns cs ≤ room := by
  induction cs generalizing room with
  | nil => simp [dropFitting, columns]
  | cons c cs ih =>
    rw [dropFitting, columns]
    split
    · rw [ih]
      omega
    · simp only [reduceCtorEq, false_iff]
      omega

/-- What holds of a row being filled: it has room behind what is sure to stand on it, and there is no
word after white space before the next one begins. -/
structure Sound (limit : Nat) (w : Wrap) : Prop where
  room : columns w.line < limit
  word : w.inWord = false → w.word = []

theorem sound_empty (h : 0 < limit) : Sound limit empty := ⟨h, fun _ => rfl⟩

/-- Before white space, and after it, there is no word left that is not part of the row. -/
theorem Sound.word_prepared (h : w.Sound limit) (hc : w.inWord = false ∨ c.isSpace) :
    (w.prepared limit c).word = [] := by
  rw [prepared]
  split
  · rfl
  next hm =>
    refine h.word ?_
    rcases hc with hc | hc
    · exact hc
    · by_contra hw
      exact hm (by simp [mustSettle, hc, hw])

theorem inWord_prepared (w : Wrap) (c : Cell) : (w.prepared limit c).inWord = w.inWord := by
  rw [prepared]
  split <;> rfl

/-- What a step comes to: the row that ends, if any, and the row being filled after it. -/
inductive Stepped (limit : Nat) (w : Wrap) (c : Cell) : Option (List Cell) → Wrap → Prop
  | tooWide (h : limit < c.width) : Stepped limit w c none w
  | taken (h : ¬ (w.prepared limit c).isFull limit c) :
      Stepped limit w c none ((w.prepared limit c).push c)
  | broken (h : (w.prepared limit c).isFull limit c) :
      Stepped limit w c (some (w.prepared limit c).line) (((w.prepared limit c).reopened limit).push c)
  | swallowed (h : (w.prepared limit c).isFull limit c) (hs : c.isSpace)
      (he : ((w.prepared limit c).reopened limit).space = []) :
      Stepped limit w c (some (w.prepared limit c).line) ((w.prepared limit c).reopened limit)

theorem stepped_step (limit : Nat) (w : Wrap) (c : Cell) :
    Stepped limit w c (w.step limit c).1 (w.step limit c).2 := by
  by_cases hw : limit < c.width
  · rw [step_of_lt hw]
    exact .tooWide hw
  · rw [step_of_le (Nat.not_lt.1 hw)]
    by_cases hf : (w.prepared limit c).isFull limit c
    · rw [if_pos hf]
      dsimp only
      split
      next he =>
        rw [Bool.and_eq_true, List.isEmpty_iff] at he
        exact .swallowed hf he.1 he.2
      · exact .broken hf
    · rw [if_neg hf]
      exact .taken hf

theorem sound_push (hl : columns w.line < limit) (he : c.isSpace → w.word = []) :
    (w.push c).Sound limit := by
  rw [push]
  split
  next hs => exact ⟨hl, fun _ => he hs⟩
  · exact ⟨hl, nofun⟩

theorem content_push (he : c.isSpace → w.word = []) : (w.push c).content = w.content ++ [c] := by
  rw [push]
  split
  next hs => simp [content, he hs]
  · simp [content]

theorem content_reopened (limit : Nat) (w : Wrap) :
    (w.line ++ (w.reopened limit).content).Sublist w.content := by
  rw [content, content, List.append_assoc w.line, reopened, List.nil_append]
  exact (((dropFitting_suffix _ _).sublist).append_right _).append_left _

theorem Sound.stepped (h : w.Sound limit) {row : Option (List Cell)} {v : Wrap}
    (hs : Stepped limit w c row v) : v.Sound limit := by
  have hl : 0 < limit := Nat.zero_lt_of_lt h.room
  have hword (hc : c.isSpace) : (w.prepared limit c).word = [] := h.word_prepared (.inr hc)
  cases hs with
  | tooWide => exact h
  | taken hf =>
    refine sound_push ?_ hword
    simp only [isFull, Bool.or_eq_true, decide_eq_true_eq, not_or] at hf
    omega
  | broken => exact sound_push hl hword
  | swallowed =>
    refine ⟨hl, fun hi => h.word_prepared (.inl ?_)⟩
    rwa [← inWord_prepared w c]

/-- A step takes its cluster last; white space at the end of a row may be lost. -/
theorem Sound.stepped_sublist (h : w.Sound limit) {row : Option (List Cell)} {v : Wrap}
    (hs : Stepped limit w c row v) : (row.getD [] ++ v.content).Sublist (w.content ++ [c]) := by
  have hword (hc : c.isSpace) : (w.prepared limit c).word = [] := h.word_prepared (.inr hc)
  have hword' (hc : c.isSpace) : ((w.prepared limit c).reopened limit).word = [] := hword hc
  have hr := content_reopened limit (w.prepared limit c)
  rw [content_prepared] at hr
  cases hs with
  | tooWide => exact List.sublist_append_left _ _
  | taken =>
    rw [content_push hword, content_prepared]
    exact List.Sublist.refl _
  | broken =>
    rw [content_push hword', ← List.append_assoc]
    exact hr.append_right [c]
  | swallowed => exact hr.trans (List.sublist_append_left _ _)

theorem Sound.step (h : w.Sound limit) (c : Cell) : (w.step limit c).2.Sound limit :=
  h.stepped (stepped_step limit w c)

def after (limit : Nat) (w : Wrap) : List Cell → Wrap
  | [] => w
  | c :: cs => after limit (w.step limit c).2 cs

def ended (limit : Nat) (w : Wrap) : List Cell → List (List Cell)
  | [] => []
  | c :: cs => (w.step limit c).1.toList ++ ended limit (w.step limit c).2 cs

theorem Sound.after (h : w.Sound limit) (cs : List Cell) : (w.after limit cs).Sound limit := by
  induction cs generalizing w with
  | nil => exact h
  | cons c cs ih => exact ih (h.step c)

theorem Sound.after_sublist (h : w.Sound limit) (cs : List Cell) :
    ((w.ended limit cs).flatten ++ (w.after limit cs).content).Sublist (w.content ++ cs) := by
  induction cs generalizing w with
  | nil => simp [ended, Wrap.after]
  | cons c cs ih =>
    have hrow : (w.step limit c).1.toList.flatten = (w.step limit c).1.getD [] := by
      cases (w.step limit c).1 <;> simp
    rw [ended, Wrap.after, List.flatten_append, hrow, List.append_assoc, List.append_cons]
    refine ((ih (h.step c)).append_left _).trans ?_
    rw [← List.append_assoc]
    exact (h.stepped_sublist (stepped_step limit w c)).append_right cs

theorem after_empty_sublist (hl : 0 < limit) (cs : List Cell) :
    ((empty.ended limit cs).flatten ++ (empty.after limit cs).content).Sublist cs :=
  (sound_empty hl).after_sublist cs

/-- A row ends with something on it: a word that has no room is part of it. -/
theorem line_prepared_ne_nil (hl : 0 < limit) (h : (w.prepared limit c).isFull limit c) :
    (w.prepared limit c).line ≠ [] := by
  intro hx
  simp only [isFull, used_prepared, hx, columns, Bool.or_eq_true, Bool.and_eq_true,
    decide_eq_true_eq] at h
  rw [prepared] at hx
  split at hx
  next =>
    have hc : w.content = [] := hx
    rw [← columns_content, hc, columns] at h
    omega
  next hm =>
    simp only [mustSettle, hx, List.isEmpty_nil, Bool.true_and, Bool.or_eq_true,
      decide_eq_true_eq, not_or] at hm
    rw [used, hx, columns] at h
    omega

theorem ne_nil_of_mem_ended (hl : 0 < limit) {cs : List Cell} {r : List Cell}
    (h : r ∈ w.ended limit cs) : r ≠ [] := by
  induction cs generalizing w with
  | nil => cases h
  | cons c cs ih =>
    rw [ended] at h
    rcases List.mem_append.1 h with h | h
    · have hs := stepped_step limit w c
      rw [Option.mem_toList.1 h] at hs
      generalize (w.step limit c).2 = v at hs
      cases hs with
      | broken hf => exact line_prepared_ne_nil hl hf
      | swallowed hf => exact line_prepared_ne_nil hl hf
    · exact ih h

theorem rowsFrom_append (limit : Nat) (w : Wrap) (cs ds : List Cell) :
    rowsFrom limit w (cs ++ ds) = w.ended limit cs ++ rowsFrom limit (w.after limit cs) ds := by
  induction cs generalizing w with
  | nil => rfl
  | cons c cs ih =>
    rw [List.cons_append, rowsFrom, ended, after]
    cases hs : w.step limit c with
    | mk row v =>
      cases row with
      | none => simp only [ih, Option.toList_none, List.nil_append]
      | some row => simp only [ih, Option.toList_some, List.cons_append, List.nil_append]

theorem rowsFrom_nil (limit : Nat) (w : Wrap) :
    rowsFrom limit w [] = if w.content = [] then [] else [w.content] := by
  rw [rowsFrom]
  simp [settle, content]

theorem rowsFrom_eq (limit : Nat) (w : Wrap) (cs : List Cell) :
    rowsFrom limit w cs = w.ended limit cs ++
      if (w.after limit cs).content = [] then [] else [(w.after limit cs).content] := by
  have h := rowsFrom_append limit w cs []
  rwa [List.append_nil, rowsFrom_nil] at h

theorem isFull_iff (hw : 0 < c.width) : w.isFull limit c ↔ limit ≤ w.used := by
  have hle : columns w.line ≤ w.used := by
    rw [used]
    omega
  simp only [isFull, hw, decide_true, Bool.true_and, Bool.or_eq_true, decide_eq_true_eq]
  omega

theorem Sound.after_of_lt (h : w.Sound limit) (cs : List Cell)
    (hc : w.used + columns cs < limit) :
    w.ended limit cs = [] ∧ (w.after limit cs).content = w.content ++ cs := by
  induction cs generalizing w with
  | nil => exact ⟨rfl, (List.append_nil _).symm⟩
  | cons c cs ih =>
    rw [columns] at hc
    have hnot : ¬ (w.prepared limit c).isFull limit c := by
      have hle : columns (w.prepared limit c).line ≤ w.used := by
        rw [← used_prepared limit w c, used]
        omega
      simp only [isFull, used_prepared, Bool.or_eq_true, Bool.and_eq_true, decide_eq_true_eq]
      omega
    have hs := h.step c
    have hcontent : ((w.prepared limit c).push c).content = w.content ++ [c] := by
      rw [content_push fun hc => h.word_prepared (.inr hc), content_prepared]
    rw [step_of_le (by omega), if_neg hnot] at hs
    have hused : ((w.prepared limit c).push c).used + columns cs < limit := by
      rw [← columns_content, hcontent, columns_append, columns_content]
      simp only [columns]
      omega
    obtain ⟨hrows, hrest⟩ := ih hs hused
    rw [ended, Wrap.after, step_of_le (by omega), if_neg hnot, hrest, hcontent]
    exact ⟨hrows, (List.append_cons _ _ _).symm⟩

/-- The row being filled has no room. If it reaches past the edge, it is with a word, or there is
nothing but white space on it. -/
def AtEdge (limit : Nat) (w : Wrap) : Prop :=
  limit ≤ w.used ∧ (w.used = limit ∨ w.inWord ∨ w.line = [])

instance : Decidable (w.AtEdge limit) :=
  inferInstanceAs (Decidable (_ ∧ (_ ∨ _ ∨ w.line = [])))

/-- Where there is no room for a blank, all white space before it falls on the edge, or none does. -/
theorem Sound.space_reopened (h : w.Sound limit) (hs : c.isSpace) (hw : c.width = 1)
    (hl : limit ≤ w.used) :
    ((w.prepared limit c).reopened limit).space = [] ↔ w.AtEdge limit := by
  rw [reopened, dropFitting_eq_nil]
  by_cases hm : w.mustSettle limit c
  · have he : w.AtEdge limit := by
      simp only [mustSettle, hs, Bool.and_true, Bool.or_eq_true, Bool.and_eq_true,
        List.isEmpty_iff] at hm
      exact ⟨hl, .inr (hm.imp_right And.left)⟩
    simp [prepared, hm, settle, columns, he]
  · -- the row has something on it, and only white space after that
    rw [prepared, if_neg hm]
    simp only [mustSettle, hs, hw, Bool.and_true, Bool.or_eq_true, Bool.and_eq_true,
      List.isEmpty_iff, decide_eq_true_eq, not_or, not_and, Bool.not_eq_true] at hm
    obtain ⟨hword, hm⟩ := hm
    have hroom := h.room
    simp only [used, h.word hword, columns] at hl hm
    have hline : w.line ≠ [] := by
      intro hx
      have := hm hx
      rw [hx, columns] at hl
      omega
    have he : w.AtEdge limit ↔ limit ≤ w.used ∧ w.used = limit := by
      simp [AtEdge, hword, hline]
    rw [he]
    simp only [used, h.word hword, columns]
    omega

theorem rowsFrom_singleton (limit : Nat) (w : Wrap) (c : Cell) : rowsFrom limit w [c] =
    (w.step limit c).1.toList ++ rowsFrom limit (w.step limit c).2 [] := by
  have h := rowsFrom_append limit w [c] []
  rwa [List.append_nil, ended, ended, List.append_nil] at h

theorem Sound.rowsFrom_blank_of_atEdge (h : w.Sound limit) (hs : c.isSpace) (hw : c.width = 1)
    (he : w.AtEdge limit) :
    ∃ row : List Cell, rowsFrom limit w [c] = [row] ∧ row.Sublist w.content := by
  have hroom := h.room
  have hfull : (w.prepared limit c).isFull limit c := by
    rw [isFull_iff (by omega), used_prepared]
    exact he.1
  have hspace := (h.space_reopened hs hw he.1).2 he
  have hrest : ((w.prepared limit c).reopened limit).content = [] := by
    rw [content, hspace]
    exact h.word_prepared (.inr hs)
  have hsub := content_reopened limit (w.prepared limit c)
  rw [content_prepared, hrest, List.append_nil] at hsub
  refine ⟨(w.prepared limit c).line, ?_, hsub⟩
  rw [rowsFrom_singleton, step_of_le (by omega), if_pos hfull, if_pos (by simp [hs, hspace])]
  simp [rowsFrom_nil, hrest]

theorem Sound.rowsFrom_blank_of_not_atEdge (h : w.Sound limit) (hs : c.isSpace)
    (hw : c.width = 1) (he : ¬ w.AtEdge limit) :
    ∃ rows row, rowsFrom limit w [c] = rows ++ [row ++ [c]] ∧
      (rows ++ [row]).flatten.Sublist w.content := by
  have hroom := h.room
  have hword (_ : c.isSpace) : (w.prepared limit c).word = [] := h.word_prepared (.inr hs)
  have hword' (_ : c.isSpace) : ((w.prepared limit c).reopened limit).word = [] := hword hs
  rw [rowsFrom_singleton, step_of_le (by omega)]
  by_cases hfull : (w.prepared limit c).isFull limit c
  · have hl : limit ≤ w.used := by rwa [isFull_iff (by omega), used_prepared] at hfull
    have hspace := mt (h.space_reopened hs hw hl).1 he
    have hsub := content_reopened limit (w.prepared limit c)
    rw [content_prepared] at hsub
    rw [if_pos hfull, if_neg (by simp [hspace])]
    refine ⟨[(w.prepared limit c).line], ((w.prepared limit c).reopened limit).content, ?_, ?_⟩
    · simp [rowsFrom_nil, content_push hword']
    · simpa using hsub
  · rw [if_neg hfull]
    refine ⟨[], w.content, ?_, by simp⟩
    rw [rowsFrom_nil, content_push hword, content_prepared]
    simp

theorem wrap_eq (limit : Nat) {cs : List Cell} (h : rowsFrom limit empty cs ≠ []) :
    wrap limit cs = rowsFrom limit empty cs := by
  rw [wrap]
  split
  next hn => exact absurd hn h
  · rfl

end Wrap

theorem wrap_sublist {limit : Nat} (hl : 0 < limit) (cs : List Cell) :
    (wrap limit cs).flatten.Sublist cs := by
  have h := Wrap.after_empty_sublist hl cs
  have hr := Wrap.rowsFrom_eq limit .empty cs
  by_cases hn : Wrap.rowsFrom limit .empty cs = []
  · rw [wrap, hn]
    exact List.nil_sublist cs
  · rw [Wrap.wrap_eq limit hn, hr, List.flatten_append]
    split
    next hc => simpa [hc] using h
    · simpa using h

theorem wrap_of_mem_nil {limit : Nat} (hl : 0 < limit) {cs : List Cell} (h : [] ∈ wrap limit cs) :
    wrap limit cs = [[]] := by
  by_cases hn : Wrap.rowsFrom limit .empty cs = []
  · rw [wrap, hn]
  · rw [Wrap.wrap_eq limit hn, Wrap.rowsFrom_eq] at h
    rcases List.mem_append.1 h with h | h
    · exact absurd rfl (Wrap.ne_nil_of_mem_ended hl h)
    · split at h
      next => cases h
      next hc => exact absurd (List.mem_singleton.1 h).symm hc

theorem wrap_of_lt {limit : Nat} {cs : List Cell} (h : columns cs < limit) :
    wrap limit cs = [cs] := by
  have hl : 0 < limit := by omega
  obtain ⟨hrows, hrest⟩ := (Wrap.sound_empty hl).after_of_lt cs
    (by simpa [Wrap.used, Wrap.empty, columns] using h)
  have hr := Wrap.rowsFrom_eq limit .empty cs
  rw [hrows, List.nil_append, hrest] at hr
  have he : Wrap.empty.content ++ cs = cs := rfl
  rw [he] at hr
  rw [wrap, hr]
  by_cases hn : cs = []
  · rw [if_pos hn, hn]
  · rw [if_neg hn]

section Concat
variable {limit : Nat} (hl : 0 < limit) (cs : List Cell) {c : Cell} (hs : c.isSpace)
  (hw : c.width = 1)
include hl hs hw

theorem wrap_concat_of_atEdge (he : (Wrap.empty.after limit cs).AtEdge limit) :
    (wrap limit (cs ++ [c])).flatten.Sublist cs := by
  have hr := Wrap.rowsFrom_append limit .empty cs [c]
  obtain ⟨row, hx, hrow⟩ := ((Wrap.sound_empty hl).after cs).rowsFrom_blank_of_atEdge hs hw he
  rw [hx] at hr
  rw [Wrap.wrap_eq limit (by simp [hr]), hr, List.flatten_append, List.flatten_singleton]
  exact (hrow.append_left _).trans (Wrap.after_empty_sublist hl cs)

theorem wrap_concat_of_not_atEdge (he : ¬ (Wrap.empty.after limit cs).AtEdge limit) :
    ∃ rows row, wrap limit (cs ++ [c]) = rows ++ [row ++ [c]] ∧
      (rows ++ [row]).flatten.Sublist cs := by
  have hr := Wrap.rowsFrom_append limit .empty cs [c]
  obtain ⟨rows, row, hx, hrows⟩ :=
    ((Wrap.sound_empty hl).after cs).rowsFrom_blank_of_not_atEdge hs hw he
  rw [hx] at hr
  refine ⟨Wrap.empty.ended limit cs ++ rows, row, ?_, ?_⟩
  · rw [Wrap.wrap_eq limit (by simp [hr]), hr, List.append_assoc]
  · rw [List.append_assoc, List.flatten_append]
    exact (hrows.append_left _).trans (Wrap.after_empty_sublist hl cs)

end Concat

end Tether.Screen
