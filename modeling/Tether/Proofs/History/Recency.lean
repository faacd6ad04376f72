import Tether.Proofs.History.Write
import Mathlib.Data.List.Dedup

/-! The entries of a history that began empty: each line that was written in its mode once, in the
order in which they were written last (`entries_of_written`). -/
namespace Tether.History
open Text (Blank)

variable {h : History} {line : String} {mode : Mode} {ws : List (String × Mode)}

section Lists
variable {α : Type}

def LastBefore (l : List α) (a b : α) : Prop :=
  ∃ before after, l = before ++ a :: after ∧ a ∉ after ∧ b ∈ after

theorem LastBefore.cons {l : List α} {a b : α} (h : LastBefore l a b) (c : α) :
    LastBefore (c :: l) a b := by
  obtain ⟨before, after, rfl, ha, hb⟩ := h
  exact ⟨c :: before, after, rfl, ha, hb⟩

variable [DecidableEq α]

theorem dedup_concat (l : List α) (a : α) : (l ++ [a]).dedup = l.dedup.erase a ++ [a] := by
  induction l with
  | nil => simp
  | cons b l ih =>
    rw [List.cons_append]
    by_cases hb : b ∈ l
    · rw [List.dedup_cons_of_mem hb, List.dedup_cons_of_mem (List.mem_append_left [a] hb), ih]
    · have hd : b ∉ l.dedup := mt List.mem_dedup.1 hb
      rw [List.dedup_cons_of_notMem hb]
      by_cases hab : b = a
      · subst hab
        rw [List.dedup_cons_of_mem (by simp), ih, List.erase_of_not_mem hd, List.erase_cons_head]
      · have hn : b ∉ l ++ [a] := by simp [hb, hab]
        rw [List.dedup_cons_of_notMem hn, ih, List.erase_cons_tail (by simpa using hab),
          List.cons_append]

theorem pairwise_dedup (l : List α) : l.dedup.Pairwise (LastBefore l) := by
  induction l with
  | nil => exact .nil
  | cons c l ih =>
    have hl : l.dedup.Pairwise (LastBefore (c :: l)) := ih.imp fun h => h.cons c
    by_cases hc : c ∈ l
    · rwa [List.dedup_cons_of_mem hc]
    · rw [List.dedup_cons_of_notMem hc]
      exact .cons (fun b hb => ⟨[], l, rfl, hc, List.mem_dedup.1 hb⟩) hl

end Lists

def entriesOf (ws : List (String × Mode)) : List HistoryEntry :=
  (ws.filter fun w => !(Text.trimString w.1).isEmpty).map fun w => entryOf w.1 w.2

theorem mem_entriesOf {e : HistoryEntry} :
    e ∈ entriesOf ws ↔ ∃ w ∈ ws, ¬ Blank w.1.toList ∧ entryOf w.1 w.2 = e := by
  simp [entriesOf, ← Text.isEmpty_trimString, and_assoc]

/-- The histories that come of an empty one by writing lines, oldest first. In between anything may
happen to the file, so that any of the writes can fail to save its entry. -/
inductive Written : List (String × Mode) → History → Prop
  | empty (file : Option HistoryFile) : Written [] ⟨[], file⟩
  | write {ws : List (String × Mode)} {h : History} (hw : Written ws h) (line : String)
      (mode : Mode) : Written (ws ++ [(line, mode)]) (h.write line mode).1
  | disturb {ws : List (String × Mode)} {h : History} (hw : Written ws h)
      (file : Option HistoryFile) : Written ws { h with file := file }

theorem write_of_blank (hb : Blank line.toList) : h.write line mode = (h, none) := by
  rw [write_eq, Text.isEmpty_trimString.2 hb, Bool.true_or, if_pos rfl]

/-- Whichever way a line is taken, its entry comes last and stands nowhere else. -/
theorem entries_write (hn : h.entries.Nodup) (hb : ¬ Blank line.toList) :
    (h.write line mode).1.entries = h.entries.erase (entryOf line mode) ++ [entryOf line mode] := by
  have he : (Text.trimString line).isEmpty = false := by simpa using mt Text.isEmpty_trimString.1 hb
  rw [write_eq, he, Bool.false_or]
  split
  next hl =>
    obtain ⟨es, hes⟩ := List.getLast?_eq_some_iff.1 (beq_iff_eq.1 hl)
    rw [hes] at hn ⊢
    have hx : entryOf line mode ∉ es := fun hx =>
      (List.nodup_append.1 hn).2.2 _ hx _ List.mem_cons_self rfl
    simp [List.erase_append_right _ hx]
  next =>
    split
    next => exact mem_entries_save
    next hc => rw [mem_entries_save, List.erase_of_not_mem (mt List.contains_iff_mem.2 hc)]

theorem entries_eq_dedup (hw : Written ws h) : h.entries = (entriesOf ws).dedup := by
  induction hw with
  | empty => rfl
  | @write ws h _ line mode ih =>
    have hn : h.entries.Nodup := ih ▸ List.nodup_dedup _
    by_cases hb : Blank line.toList
    · rw [write_of_blank hb, ih]
      simp [entriesOf, Text.isEmpty_trimString.2 hb]
    · have he : (Text.trimString line).isEmpty = false := by
        simpa using mt Text.isEmpty_trimString.1 hb
      have hs : entriesOf (ws ++ [(line, mode)]) = entriesOf ws ++ [entryOf line mode] := by
        simp [entriesOf, he]
      rw [entries_write hn hb, ih, hs, dedup_concat]
  | disturb _ _ ih => exact ih

/-- No entry is lost or repeated, they stand in the order in which they were written last, and the
newest is the last line that was not blank. -/
theorem entries_of_written (hw : Written ws h) :
    h.entries.Nodup ∧
    (∀ e, e ∈ h.entries ↔ ∃ w ∈ ws, ¬ Blank w.1.toList ∧ entryOf w.1 w.2 = e) ∧
    h.entries.Pairwise (LastBefore (entriesOf ws)) ∧
    h.entries.getLast? = (entriesOf ws).getLast? := by
  rw [entries_eq_dedup hw]
  refine ⟨List.nodup_dedup _, fun e => ?_, pairwise_dedup _, ?_⟩
  · rw [List.mem_dedup, mem_entriesOf]
  · rcases List.eq_nil_or_concat' (entriesOf ws) with hn | ⟨es, e, he⟩
    · rw [hn, List.dedup_nil]
    · rw [he, dedup_concat, List.getLast?_concat, List.getLast?_concat]

/-- A line in two modes, written again in one of them while the file cannot be written. -/
theorem entries_of_written_modes : ∃ h,
    Written [("list", .command), (" list\t", .eval), ("  ", .eval), ("list", .command)] h ∧
    (h.write "x" .eval).2.isSome ∧ h.entries.Nodup ∧
    h.entries.getLast? = some ⟨.command, "list"⟩ ∧ ⟨.eval, "list"⟩ ∈ h.entries := by
  have h₀ := Written.empty (some ⟨"history", .missing⟩)
  have hd := ((h₀.write "list" .command).write " list\t" .eval).disturb (some ⟨"history", .directory⟩)
  have hw := (hd.write "  " .eval).write "list" .command
  obtain ⟨hn, hm, -, hl⟩ := entries_of_written hw
  have hb : ¬ Blank " list\t".toList := fun hb => absurd (hb 'l' (by decide)) (by decide)
  refine ⟨_, hw, by decide +kernel, hn, hl.trans (by decide +kernel), (hm _).2 ?_⟩
  exact ⟨(" list\t", .eval), by simp, hb, by decide +kernel⟩

end Tether.History
