import Tether.History.Log
import Tether.Proofs.History.Records

/-! What writing lines does to a history and its file. A file that was missing at first keeps the
same entries as the history (`agrees_of_kept`); a file from elsewhere keeps its own and gains the
new one exactly when its last line has a line feed (`reopen_write_iff`). -/
namespace Tether.History
open HistoryEntry (ofText records ofRecord)
open Text (Blank Complete)

variable {h : History} {path : String} {line : String} {mode : Mode}

def entryOf (line : String) (mode : Mode) : HistoryEntry := ⟨mode, Text.trimString line⟩

theorem plain_entryOf (hl : '\n' ∉ line.toList) : (entryOf line mode).Plain := by
  have ht : (entryOf line mode).line.toList = Text.trim line.toList := String.toList_ofList
  refine ⟨?_, ?_⟩
  · rw [ht]
    exact Text.trim_trimmed line.toList
  · rw [ht]
    exact fun hm => hl (Text.mem_of_mem_trim hm)

theorem write_eq (h : History) (line : String) (mode : Mode) :
    h.write line mode =
      if (Text.trimString line).isEmpty || h.entries.getLast? == some (entryOf line mode) then
        (h, none)
      else if h.entries.contains (entryOf line mode) then
        { h with entries := h.entries.erase (entryOf line mode) ++ [entryOf line mode] }.save
          (·.replace (records (h.entries.erase (entryOf line mode) ++ [entryOf line mode])))
      else { h with entries := h.entries ++ [entryOf line mode] }.save
        (·.append (entryOf line mode).record) :=
  rfl

/-- Nothing changes, or an older entry comes last and all are saved, or a new one is appended. -/
theorem write_cases (h : History) (line : String) (mode : Mode) :
    h.write line mode = (h, none) ∧ (Blank line.toList ∨ entryOf line mode ∈ h.entries) ∨
    h.write line mode =
      { h with entries := h.entries.erase (entryOf line mode) ++ [entryOf line mode] }.save
        (·.replace (records (h.entries.erase (entryOf line mode) ++ [entryOf line mode]))) ∧
      entryOf line mode ∈ h.entries ∨
    h.write line mode = { h with entries := h.entries ++ [entryOf line mode] }.save
        (·.append (entryOf line mode).record) ∧
      ¬ Blank line.toList ∧ entryOf line mode ∉ h.entries := by
  rw [write_eq]
  split
  next hb =>
    rw [Bool.or_eq_true, Text.isEmpty_trimString, beq_iff_eq] at hb
    exact .inl ⟨rfl, hb.imp_right List.mem_of_getLast?⟩
  next hb =>
    rw [Bool.or_eq_true, Text.isEmpty_trimString, not_or] at hb
    split
    next hc => exact .inr (.inl ⟨rfl, List.contains_iff_mem.1 hc⟩)
    next hc => exact .inr (.inr ⟨rfl, hb.1, mt List.contains_iff_mem.2 hc⟩)

def Saved (path : String) (h : History) : Prop :=
  h.file = some ⟨path, .text (records h.entries)⟩ ∨ h.file = some ⟨path, .missing⟩ ∧ h.entries = []

/-- The entries can be read back, and the file is what they make. -/
structure Mirrored (path : String) (h : History) : Prop where
  plain : ∀ e ∈ h.entries, e.Plain
  saved : Saved path h

theorem save_of_replace {es : List HistoryEntry} (hs : Saved path h) :
    { h with entries := es }.save (·.replace (records es)) =
      (⟨es, some ⟨path, .text (records es)⟩⟩, none) := by
  rcases hs with hf | ⟨hf, -⟩
  · simp [save, hf, FileState.replace]
  · simp [save, hf, FileState.replace]

theorem save_of_append {e : HistoryEntry} (hs : Saved path h) :
    { h with entries := h.entries ++ [e] }.save (·.append e.record) =
      (⟨h.entries ++ [e], some ⟨path, .text (records (h.entries ++ [e]))⟩⟩, none) := by
  have hr : records [e] = e.record := by simp [records]
  rcases hs with hf | ⟨hf, he⟩
  · simp [save, hf, FileState.append, HistoryEntry.records_append, hr]
  · simp [save, hf, FileState.append, he, hr]

theorem Mirrored.write (hm : Mirrored path h) (hl : '\n' ∉ line.toList) (mode : Mode) :
    Mirrored path (h.write line mode).1 ∧ (h.write line mode).2 = none := by
  have he : (entryOf line mode).Plain := plain_entryOf hl
  rcases write_cases h line mode with ⟨hw, -⟩ | ⟨hw, -⟩ | ⟨hw, -⟩
  · rw [hw]
    exact ⟨hm, rfl⟩
  · rw [hw, save_of_replace hm.saved]
    refine ⟨⟨fun e hx => ?_, .inl rfl⟩, rfl⟩
    rcases List.mem_append.1 hx with hx | hx
    · exact hm.plain e (List.mem_of_mem_erase hx)
    · exact List.mem_singleton.1 hx ▸ he
  · rw [hw, save_of_append hm.saved]
    refine ⟨⟨fun e hx => ?_, .inl rfl⟩, rfl⟩
    rcases List.mem_append.1 hx with hx | hx
    · exact hm.plain e hx
    · exact List.mem_singleton.1 hx ▸ he

theorem Mirrored.reopen_eq (hm : Mirrored path h) : h.reopen = h := by
  obtain ⟨entries, file⟩ := h
  rcases hm.saved with hf | ⟨hf, he⟩
  · obtain rfl : file = some ⟨path, .text (records entries)⟩ := hf
    have hr : ofText (records entries) = entries := HistoryEntry.ofText_records hm.plain
    simp [reopen, opened, FileState.text?, hr]
  · obtain rfl : file = some ⟨path, .missing⟩ := hf
    cases he
    rfl

/-- The histories that lines without line feeds make of a missing file, over any number of
starts. -/
inductive Kept (path : String) : History → Prop
  | missing : Kept path (opened ⟨path, .missing⟩)
  | write {h : History} {line : String} (hk : Kept path h) (hl : '\n' ∉ line.toList)
      (mode : Mode) : Kept path (h.write line mode).1
  | reopen {h : History} (hk : Kept path h) : Kept path h.reopen

theorem mirrored_of_kept (hk : Kept path h) : Mirrored path h := by
  induction hk with
  | missing => exact ⟨nofun, .inr ⟨rfl, rfl⟩⟩
  | write hk hl mode ih => exact (ih.write hl mode).1
  | reopen hk ih => rwa [ih.reopen_eq]

theorem mem_entries_save {c : FileState → Except FileError FileState} :
    (h.save c).1.entries = h.entries := by
  rw [save]
  split
  · rfl
  · split <;> rfl

theorem mem_entries_write (h : History) (hb : ¬ Blank line.toList) (mode : Mode) :
    entryOf line mode ∈ (h.write line mode).1.entries := by
  rcases write_cases h line mode with ⟨hw, hc⟩ | ⟨hw, -⟩ | ⟨hw, -⟩
  · rw [hw]
    exact hc.resolve_left hb
  · rw [hw, mem_entries_save]
    simp
  · rw [hw, mem_entries_save]
    simp

/-- The file of a kept history is what its entries make, the next start finds the same entries, and
writing goes on: it does not fail, and what is not blank leaves a file. -/
theorem agrees_of_kept (hk : Kept path h) :
    Saved path h ∧ h.reopen.entries = h.entries ∧
    ∀ (line : String) (mode : Mode), '\n' ∉ line.toList → (h.write line mode).2 = none ∧
      (¬ Blank line.toList → (h.write line mode).1.file =
        some ⟨path, .text (records (h.write line mode).1.entries)⟩) := by
  have hm := mirrored_of_kept hk
  refine ⟨hm.saved, by rw [hm.reopen_eq], fun line mode hl => ?_⟩
  obtain ⟨hw, he⟩ := hm.write hl mode
  refine ⟨he, fun hb => ?_⟩
  rcases hw.saved with hf | ⟨-, hn⟩
  · exact hf
  · have hx := mem_entries_write h hb mode
    rw [hn] at hx
    cases hx

/-- Lines that begin with tags and hold carriage returns, one of them written again after a new
start. -/
theorem agrees_of_kept_tags : ∃ h, Kept "history" h ∧
    h.entries = [⟨.command, "E:x"⟩, ⟨.eval, "C:a\rb"⟩] ∧
    Saved "history" h ∧ h.reopen.entries = h.entries := by
  have ht : '\n' ∉ "C:a\rb".toList := by decide
  have hs : '\n' ∉ " E:x\r".toList := by decide
  have h₀ : Kept "history" _ := .missing
  have hk := (((h₀.write ht .eval).write hs .command).reopen).write ht .eval
  have ha := agrees_of_kept hk
  exact ⟨_, hk, by decide +kernel, ha.1, ha.2.1⟩

theorem ofText_append_entryOf (content : List Char) {e : HistoryEntry} (he : e.Plain) :
    ofText (content ++ e.record) = ofText (Text.finished content) ++
      [ofRecord (Text.unfinished content ++ e.body)] := by
  have hc : content ++ e.record =
      Text.finished content ++ (Text.unfinished content ++ e.record) := by
    rw [← List.append_assoc, Text.finished_append_unfinished]
  rw [hc, HistoryEntry.ofText_append (Text.complete_finished content),
    HistoryEntry.ofText_append_record (Text.not_mem_unfinished content) he]

theorem ofText_of_not_complete {content : List Char} (hc : ¬ Complete content) :
    ofText content = ofText (Text.finished content) ++ [ofRecord (Text.unfinished content)] := by
  have hu := mt Text.unfinished_eq_nil_iff.1 hc
  conv_lhs => rw [← Text.finished_append_unfinished content]
  rw [HistoryEntry.ofText_append (Text.complete_finished content),
    HistoryEntry.ofText_of_not_mem (Text.not_mem_unfinished content) hu]

/-- A new line keeps all entries of a file and becomes the last one exactly when the file is empty
or ends with a line feed. Else its record becomes part of the last entry. -/
theorem reopen_write_iff {content : List Char} (hl : '\n' ∉ line.toList) (hb : ¬ Blank line.toList)
    (hn : entryOf line mode ∉ (opened ⟨path, .text content⟩).entries) :
    let h := opened ⟨path, .text content⟩
    let w := h.write line mode
    w.2 = none ∧
    (w.1.reopen.entries = h.entries ++ [entryOf line mode] ↔ Complete content) ∧
    (¬ Complete content → w.1.reopen.entries = h.entries.dropLast ++
      [ofRecord (Text.unfinished content ++ (entryOf line mode).body)]) := by
  intro h w
  have he : (entryOf line mode).Plain := plain_entryOf hl
  have hh : h.entries = ofText content := rfl
  have hw : w = (⟨h.entries ++ [entryOf line mode],
      some ⟨path, .text (content ++ (entryOf line mode).record)⟩⟩, none) := by
    rcases write_cases h line mode with ⟨-, hc⟩ | ⟨-, hc⟩ | ⟨hw, -⟩
    · exact absurd (hc.resolve_left hb) hn
    · exact absurd hc hn
    · exact hw
  have hr : w.1.reopen.entries = ofText (content ++ (entryOf line mode).record) := by
    rw [hw]
    rfl
  have hj : ¬ Complete content → w.1.reopen.entries = h.entries.dropLast ++
      [ofRecord (Text.unfinished content ++ (entryOf line mode).body)] := by
    intro hc
    rw [hr, hh, ofText_append_entryOf content he, ofText_of_not_complete hc, List.dropLast_concat]
  refine ⟨by rw [hw], ⟨fun hx => ?_, fun hc => ?_⟩, hj⟩
  · -- one entry is missing if the record joins the last line
    by_contra hc
    have hlen := congrArg List.length ((hj hc).symm.trans hx)
    rw [hh, ofText_of_not_complete hc] at hlen
    simp at hlen
  · rw [hr, hh, HistoryEntry.ofText_append hc, HistoryEntry.ofText_record he]

/-- A file with lines without tags and an empty line. -/
theorem reopen_write_untagged :
    let h := opened ⟨"history", .text "x y\n\nC:quit\n".toList⟩
    '\n' ∉ "b".toList ∧ ¬ Blank "b".toList ∧ entryOf "b" .eval ∉ h.entries ∧
    (h.write "b" .eval).1.reopen.entries = [⟨.eval, "x y"⟩, ⟨.command, "quit"⟩, ⟨.eval, "b"⟩] := by
  intro h
  have hl : '\n' ∉ "b".toList := by decide
  have hb : ¬ Blank "b".toList := fun hb => absurd (hb 'b' (by decide)) (by decide)
  have hn : entryOf "b" .eval ∉ h.entries := by decide +kernel
  have hc : Complete "x y\n\nC:quit\n".toList := by rintro c ⟨⟩; rfl
  have he : h.entries ++ [entryOf "b" .eval] =
      [⟨.eval, "x y"⟩, ⟨.command, "quit"⟩, ⟨.eval, "b"⟩] := by decide +kernel
  exact ⟨hl, hb, hn, ((reopen_write_iff hl hb hn).2.1.2 hc).trans he⟩

/-- A record that is appended to a line without a line feed is lost in it. -/
theorem reopen_write_open_line :
    let h := opened ⟨"history", .text "E:a".toList⟩
    '\n' ∉ "b".toList ∧ ¬ Blank "b".toList ∧ entryOf "b" .eval ∉ h.entries ∧
    (h.write "b" .eval).2 = none ∧ (h.write "b" .eval).1.reopen.entries = [⟨.eval, "aE:b"⟩] ∧
    (h.write "b" .eval).1.reopen.entries ≠ h.entries ++ [entryOf "b" .eval] := by
  have hb : ¬ Blank "b".toList := fun hb => absurd (hb 'b' (by decide)) (by decide)
  exact ⟨by decide, hb, by decide +kernel, by decide +kernel, by decide +kernel, by decide +kernel⟩

end Tether.History
