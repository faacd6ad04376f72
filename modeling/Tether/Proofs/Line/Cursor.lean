import Tether.Line.Input
import Tether.Proofs.Text.Ends
import Tether.Proofs.Text.Position

/-! The cursor of an input is a position of its text, whatever keys are pressed: `cursor_press`. -/
namespace Tether
open Text Line

namespace Line

/-- Where an outcome leaves the cursor: on a position of a text that stays as it is, and where an
edit ends. What was cut last is kept with a text that stays. -/
def Outcome.Fits (o : Outcome) (e : Editor) (cs : List Char) : Prop :=
  match o.edit with
  | none => isPosition cs o.editor.cursor ∧ o.editor.cut = e.cut
  | some (.delete start _) => o.editor.cursor = start
  | some (.insert start text) => o.editor.cursor = start + bytes text

theorem Edit.apply?_insert (a d text : List Char) :
    Edit.apply? (a ++ d) (.insert (bytes a) text) = some (a ++ text ++ d) := by
  have h := splice?_append a [] d text
  rwa [bytes_nil, Nat.add_zero, List.nil_append] at h

theorem Edit.apply?_delete (a m d : List Char) :
    Edit.apply? (a ++ (m ++ d)) (.delete (bytes a) (bytes a + bytes m)) = some (a ++ d) := by
  have h := splice?_append a m d []
  rwa [List.append_nil] at h

def Outcome.applied? (o : Outcome) (cs : List Char) : Option (List Char) :=
  match o.edit with
  | none => some cs
  | some d => d.apply? cs

theorem Outcome.Fits.isPosition {o : Outcome} {e : Editor} {cs v : List Char} (h : o.Fits e cs)
    (ha : o.applied? cs = some v) : isPosition v o.editor.cursor := by
  rw [Outcome.Fits] at h
  rw [Outcome.applied?] at ha
  split at ha
  next he =>
    rw [he] at h
    cases ha
    exact h.1
  next d he =>
    rw [he] at h
    cases d with
    | delete start stop =>
      obtain ⟨a, m, d, -, hs, -, rfl⟩ := splice?_eq_some.1 ha
      rw [show o.editor.cursor = start from h, ← hs, List.append_nil]
      exact isPosition_append a d
    | insert start text =>
      obtain ⟨a, m, d, -, hs, -, rfl⟩ := splice?_eq_some.1 ha
      rw [show o.editor.cursor = start + bytes text from h, ← hs, ← bytes_append]
      exact isPosition_append (a ++ text) d

namespace Editor

theorem eq_of_fields {a b : Editor} (h : a.cursor = b.cursor) (hc : a.cut = b.cut) : a = b := by
  obtain ⟨cursor, cut⟩ := a
  cases h
  cases hc
  rfl

variable {e : Editor} {cs : List Char} {o : Outcome}

theorem fits_moved {n : Nat} (h : isPosition cs n) : (e.moved n).Fits e cs := ⟨h, rfl⟩

theorem fits_still (h : isPosition cs e.cursor) : e.still.Fits e cs := ⟨h, rfl⟩

theorem fits_type (text : List Char) : (e.type text).Fits e cs := rfl

theorem fits_cutOut? {start stop : Nat} (h : isPosition cs e.cursor)
    (ho : e.cutOut? cs start stop = some o) : o.Fits e cs := by
  rw [cutOut?] at ho
  split at ho
  · cases ho
    exact fits_still h
  · obtain ⟨text, -, rfl⟩ := Option.map_eq_some_iff.1 ho
    rfl

theorem wordStart?_of_lastWord {lead word gap : List Char} (hw : LastWord isAlnum lead word gap)
    (hc : bytes lead + bytes (word ++ gap) = e.cursor) (rest : List Char) :
    e.wordStart? (lead ++ ((word ++ gap) ++ rest)) = some (bytes lead) := by
  have hs : splitAt? (lead ++ ((word ++ gap) ++ rest)) e.cursor =
      some (lead ++ (word ++ gap), rest) := by
    refine splitAt?_eq_some.2 ⟨?_, ?_⟩
    · rw [List.append_assoc lead]
    · rw [bytes_append, hc]
  rw [wordStart?, hs, Option.map_some]
  simp only [hw.dropEnd_gap, hw.dropEnd_word]

theorem wordEnd?_of_firstWord {lead gap word rest : List Char} (hw : FirstWord isAlnum gap word rest)
    (hc : bytes lead = e.cursor) :
    e.wordEnd? (lead ++ ((gap ++ word) ++ rest)) = some (bytes lead + bytes (gap ++ word)) := by
  have hs : splitAt? (lead ++ ((gap ++ word) ++ rest)) e.cursor =
      some (lead, gap ++ (word ++ rest)) := by
    refine splitAt?_eq_some.2 ⟨?_, hc⟩
    rw [List.append_assoc gap]
  rw [wordEnd?, hs, Option.map_some]
  simp only [hw.takeWhile_gap, hw.dropWhile_gap, hw.takeWhile_word]
  rw [bytes_append, hc, Nat.add_assoc]

theorem isPosition_wordStart? {n : Nat} (h : e.wordStart? cs = some n) : isPosition cs n := by
  obtain ⟨⟨head, tail⟩, hs, -⟩ := Option.map_eq_some_iff.1 h
  obtain ⟨rfl, hc⟩ := splitAt?_eq_some.1 hs
  obtain ⟨lead, word, gap, rfl, hw⟩ := exists_lastWord isAlnum head
  rw [bytes_append] at hc
  rw [List.append_assoc] at h ⊢
  rw [wordStart?_of_lastWord hw hc tail] at h
  cases h
  exact isPosition_append lead _

theorem isPosition_wordEnd? {n : Nat} (h : e.wordEnd? cs = some n) : isPosition cs n := by
  obtain ⟨⟨head, tail⟩, hs, -⟩ := Option.map_eq_some_iff.1 h
  obtain ⟨rfl, hc⟩ := splitAt?_eq_some.1 hs
  obtain ⟨gap, word, rest, rfl, hw⟩ := exists_firstWord isAlnum tail
  rw [← List.append_assoc gap] at h ⊢
  rw [wordEnd?_of_firstWord hw hc] at h
  cases h
  rw [← bytes_append, ← List.append_assoc]
  exact isPosition_append (head ++ (gap ++ word)) rest

theorem fits_run? {c : Command} (h : isPosition cs e.cursor) (ho : e.run? cs c = some o) :
    o.Fits e cs := by
  cases c with
  | insert c => cases ho; exact fits_type [c]
  | toStart => cases ho; exact fits_moved (isPosition_zero cs)
  | toEnd => cases ho; exact fits_moved (isPosition_bytes cs)
  | back => cases ho; exact fits_moved (isPosition_floor cs _)
  | forward => cases ho; exact fits_moved (isPosition_ceil cs _)
  | wordBack =>
    obtain ⟨n, hn, rfl⟩ := Option.map_eq_some_iff.1 ho
    exact fits_moved (isPosition_wordStart? hn)
  | wordForward =>
    obtain ⟨n, hn, rfl⟩ := Option.map_eq_some_iff.1 ho
    exact fits_moved (isPosition_wordEnd? hn)
  | cutToEnd => exact fits_cutOut? h ho
  | cutToStart => exact fits_cutOut? h ho
  | cutWord =>
    obtain ⟨n, -, ho⟩ := Option.bind_eq_some_iff.1 ho
    exact fits_cutOut? h ho
  | cutWordBack =>
    obtain ⟨n, -, ho⟩ := Option.bind_eq_some_iff.1 ho
    exact fits_cutOut? h ho
  | cutBigWordBack =>
    obtain ⟨n, -, ho⟩ := Option.bind_eq_some_iff.1 ho
    exact fits_cutOut? h ho
  | yank =>
    simp only [run?, Option.some.injEq] at ho
    split at ho
    · exact ho ▸ fits_still h
    · exact ho ▸ fits_type e.cut
  | deleteBack =>
    simp only [run?, Option.some.injEq] at ho
    split at ho
    · exact ho ▸ fits_still h
    · exact ho ▸ rfl
  | deleteForward =>
    simp only [run?, Option.some.injEq] at ho
    split at ho
    · exact ho ▸ fits_still h
    · exact ho ▸ rfl
  | act a => cases ho; exact ⟨h, rfl⟩

theorem press?_of_isPosition (h : isPosition cs e.cursor) (k : Key) :
    e.press? cs k = match Command.ofKey k with
      | none => some e.still
      | some c => e.run? cs c := by
  have he : min e.cursor (bytes cs) = e.cursor := Nat.min_eq_left (le_bytes_of_isPosition h)
  cases hc : Command.ofKey k <;> simp [press?, he, hc]

theorem fits_press? {k : Key} (h : isPosition cs e.cursor) (ho : e.press? cs k = some o) :
    o.Fits e cs := by
  rw [press?_of_isPosition h] at ho
  split at ho
  · cases ho
    exact fits_still h
  · exact fits_run? h ho

theorem insert_of_run? {c : Command} {n : Nat} {t : List Char} (ho : e.run? cs c = some o)
    (hi : o.edit = some (.insert n t)) :
    o = e.type t ∧ ((∃ x, c = .insert x ∧ t = [x]) ∨ c = .yank ∧ t = e.cut) := by
  have hcut {start stop : Nat} (ho : e.cutOut? cs start stop = some o) : False := by
    rw [cutOut?] at ho
    split at ho
    · cases ho
      cases hi
    · obtain ⟨text, -, rfl⟩ := Option.map_eq_some_iff.1 ho
      cases hi
  cases c with
  | insert c =>
    cases ho
    cases hi
    exact ⟨rfl, .inl ⟨c, rfl, rfl⟩⟩
  | toStart | toEnd | back | forward | act => cases ho; cases hi
  | wordBack | wordForward =>
    obtain ⟨n, -, rfl⟩ := Option.map_eq_some_iff.1 ho
    cases hi
  | cutToEnd | cutToStart => exact (hcut ho).elim
  | cutWord | cutWordBack | cutBigWordBack =>
    obtain ⟨n, -, ho⟩ := Option.bind_eq_some_iff.1 ho
    exact (hcut ho).elim
  | yank =>
    simp only [run?, Option.some.injEq] at ho
    split at ho
    · subst ho
      cases hi
    · subst ho
      cases hi
      exact ⟨rfl, .inr ⟨rfl, rfl⟩⟩
  | deleteBack | deleteForward =>
    simp only [run?, Option.some.injEq] at ho
    split at ho
    · subst ho
      cases hi
    · subst ho
      cases hi

end Editor

end Line

namespace Input
variable {i j : Input}

theorem isPosition_set (i : Input) (value : List Char) (n : Nat) :
    isPosition (i.set value n).value (i.set value n).cursor :=
  isPosition_floor value n

theorem isPosition_clear (i : Input) : isPosition i.clear.value i.clear.cursor := isPosition_zero []

theorem cursor_set {value : List Char} {n : Nat} (h : isPosition value n) :
    (i.set value n).cursor = n :=
  floor_of_isPosition h

/-- A key leaves the cursor on a position, and the whole input alone if it says so. -/
theorem cursor_press {k : Key} {change : Change} {action : Option Action}
    (h : isPosition i.value i.cursor) (hp : i.press? k = some (j, change, action)) :
    isPosition j.value j.cursor ∧ (change = .none → j = i) := by
  obtain ⟨o, ho, hp⟩ := Option.bind_eq_some_iff.1 hp
  have hf := Editor.fits_press? h ho
  split at hp
  next d he =>
    obtain ⟨value, hv, hp⟩ := Option.bind_eq_some_iff.1 hp
    cases hp
    have ha : o.applied? i.value = some value := by rw [Outcome.applied?, he]; exact hv
    refine ⟨hf.isPosition ha, fun hc => ?_⟩
    cases d <;> cases hc
  next he =>
    cases hp
    have ha : o.applied? i.value = some i.value := by rw [Outcome.applied?, he]
    refine ⟨hf.isPosition ha, fun hc => ?_⟩
    rw [Outcome.Fits, he] at hf
    by_cases hn : o.editor.cursor = i.cursor
    · have heq : o.editor = i.editor := Editor.eq_of_fields hn hf.2
      rw [heq]
    · rw [if_neg hn] at hc
      cases hc

end Input

end Tether
