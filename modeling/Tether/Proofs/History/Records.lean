import Tether.History.Entry
import Tether.Proofs.Text.Split

/-! Entries read back from their records, and what a record adds to a text: an entry of its own
after a line feed, and else the end of the last line. -/
namespace Tether.HistoryEntry
open Text (Complete Trimmed)

/-- A line without white space around it and without line feeds. -/
structure Plain (e : HistoryEntry) : Prop where
  trimmed : Trimmed e.line.toList
  line : '\n' ∉ e.line.toList

def body (e : HistoryEntry) : List Char := e.mode.tag ++ e.line.toList

theorem record_eq (e : HistoryEntry) : e.record = e.body ++ ['\n'] := rfl

/-- The tag alone tells the mode, whatever the line begins with. -/
@[simp] theorem ofRecord_body (e : HistoryEntry) : ofRecord e.body = e := by
  obtain ⟨mode, line⟩ := e
  cases mode with
  | eval =>
    have ha : Text.after? Mode.eval.tag (Mode.eval.tag ++ line.toList) = some line.toList :=
      Text.after?_append _ _
    simp [ofRecord, body, ha]
  | command =>
    have hn : Text.after? Mode.eval.tag (Mode.command.tag ++ line.toList) = none :=
      Text.after?_of_ne (by decide) _ _
    have ha : Text.after? Mode.command.tag (Mode.command.tag ++ line.toList) = some line.toList :=
      Text.after?_append _ _
    simp [ofRecord, body, hn, ha]

theorem body_ne_nil (e : HistoryEntry) : e.body ≠ [] := by
  obtain ⟨mode, line⟩ := e
  cases mode <;> simp [body, Mode.tag]

theorem Plain.not_mem_body {e : HistoryEntry} (h : e.Plain) : '\n' ∉ e.body := by
  have ht : '\n' ∉ e.mode.tag := by cases e.mode <;> decide
  simpa [body, ht] using h.line

theorem Plain.getLast?_body {e : HistoryEntry} (h : e.Plain) : e.body.getLast? ≠ some '\r' := by
  intro hl
  by_cases hn : e.line.toList = []
  · rw [body, hn, List.append_nil] at hl
    revert hl
    cases e.mode <;> decide
  · rw [body, List.getLast?_append_of_ne_nil _ hn] at hl
    exact absurd (h.trimmed.2 _ hl) (by decide)

theorem records_append (es fs : List HistoryEntry) :
    records (es ++ fs) = records es ++ records fs := List.flatMap_append

theorem complete_records (es : List HistoryEntry) : Complete (records es) := by
  rcases List.eq_nil_or_concat' es with rfl | ⟨es, e, rfl⟩
  · exact nofun
  · intro c hc
    have hr : records [e] = e.body ++ ['\n'] := by simp [records, record_eq]
    rw [records_append, hr, ← List.append_assoc, List.getLast?_concat, Option.mem_some_iff] at hc
    exact hc.symm

theorem ofText_append {cs : List Char} (h : Complete cs) (ds : List Char) :
    ofText (cs ++ ds) = ofText cs ++ ofText ds := by
  simp [ofText, Text.lines_append_of_complete h]

theorem ofText_of_not_mem {l : List Char} (h : '\n' ∉ l) (hl : l ≠ []) : ofText l = [ofRecord l] := by
  simp [ofText, Text.lines_of_not_mem h hl, hl]

/-- A record behind an open line becomes the end of that line. -/
theorem ofText_append_record {l : List Char} (h : '\n' ∉ l) {e : HistoryEntry} (he : e.Plain) :
    ofText (l ++ e.record) = [ofRecord (l ++ e.body)] := by
  have hn : '\n' ∉ l ++ e.body := by simpa using ⟨h, he.not_mem_body⟩
  have hr : (l ++ e.body).getLast? ≠ some '\r' := by
    rw [List.getLast?_append_of_ne_nil _ e.body_ne_nil]
    exact he.getLast?_body
  rw [record_eq, ← List.append_assoc, ofText, Text.lines_append hn hr]
  simp [Text.lines, e.body_ne_nil]

theorem ofText_record {e : HistoryEntry} (he : e.Plain) : ofText e.record = [e] := by
  simpa using ofText_append_record (l := []) (by simp) he

theorem ofText_records {es : List HistoryEntry} (h : ∀ e ∈ es, e.Plain) :
    ofText (records es) = es := by
  induction es with
  | nil => rfl
  | cons e es ih =>
    have hc : Complete e.record := by simpa [records] using complete_records [e]
    have hr : records (e :: es) = e.record ++ records es := List.flatMap_cons
    rw [hr, ofText_append hc, ofText_record (h e (by simp)), ih fun f hf => h f (by simp [hf])]
    rfl

end Tether.HistoryEntry
