import Tether.Proofs.Line.Undo

/-! Moving over words of letters and numbers, and cutting them: `press?_words`. All keys of one
direction read the same end of the word, so the ones cut what the others pass (`passes_back`,
`passes_forward`). -/
namespace Tether.Line
open Text

/-- The keys that go back by a word: alt with `b`, and left with control or alt. -/
inductive WordBackKey : Key → Prop
  | letter (shift : Bool) : WordBackKey ⟨.char 'b', false, true, shift⟩
  | ctrlLeft (alt shift : Bool) : WordBackKey ⟨.left, true, alt, shift⟩
  | altLeft (ctrl shift : Bool) : WordBackKey ⟨.left, ctrl, true, shift⟩

inductive WordForwardKey : Key → Prop
  | letter (shift : Bool) : WordForwardKey ⟨.char 'f', false, true, shift⟩
  | ctrlRight (alt shift : Bool) : WordForwardKey ⟨.right, true, alt, shift⟩
  | altRight (ctrl shift : Bool) : WordForwardKey ⟨.right, ctrl, true, shift⟩

inductive CutWordBackKey : Key → Prop
  | backspace (ctrl shift : Bool) : CutWordBackKey ⟨.backspace, ctrl, true, shift⟩

inductive CutWordForwardKey : Key → Prop
  | letter (shift : Bool) : CutWordForwardKey ⟨.char 'd', false, true, shift⟩

theorem WordBackKey.command {k : Key} (h : WordBackKey k) : Command.ofKey k = some .wordBack := by
  cases h with
  | letter shift => rfl
  | ctrlLeft alt shift => rfl
  | altLeft ctrl shift => cases ctrl <;> rfl

theorem WordForwardKey.command {k : Key} (h : WordForwardKey k) :
    Command.ofKey k = some .wordForward := by
  cases h with
  | letter shift => rfl
  | ctrlRight alt shift => rfl
  | altRight ctrl shift => cases ctrl <;> rfl

theorem CutWordBackKey.command {k : Key} (h : CutWordBackKey k) :
    Command.ofKey k = some .cutWordBack := by
  cases h with
  | backspace ctrl shift => rfl

theorem CutWordForwardKey.command {k : Key} (h : CutWordForwardKey k) :
    Command.ofKey k = some .cutWord := by
  cases h with
  | letter shift => rfl

namespace Editor
variable {e : Editor} {cs lead word gap piece rest : List Char} {k : Key} {c : Command}

theorem press?_of_command (h : isPosition cs e.cursor) (hk : Command.ofKey k = some c) :
    e.press? cs k = e.run? cs c := by
  rw [press?_of_isPosition h, hk]

/-- Some keys put the cursor at `n`, and others take a piece out of the text and leave the cursor where
that stood. An empty piece is not remembered as cut. -/
structure Passes (e : Editor) (cs lead piece rest : List Char) (n : Nat) (moves cuts : Key → Prop) :
    Prop where
  text : cs = lead ++ (piece ++ rest)
  position : isPosition cs n
  moves : ∀ k, moves k → e.press? cs k = some (e.moved n)
  cuts : ∀ k, cuts k → e.pressAll? cs [k] =
    some (⟨bytes lead, if piece = [] then e.cut else piece⟩, lead ++ rest)

theorem pressAll?_of_cutOut? (hk : e.press? (lead ++ (piece ++ rest)) k =
      e.cutOut? (lead ++ (piece ++ rest)) (bytes lead) (bytes lead + bytes piece))
    (hc : piece = [] → e.cursor = bytes lead) :
    e.pressAll? (lead ++ (piece ++ rest)) [k] =
      some (⟨bytes lead, if piece = [] then e.cut else piece⟩, lead ++ rest) := by
  by_cases hp : piece = []
  · subst hp
    have ho : e.press? (lead ++ ([] ++ rest)) k = some e.still := by
      rw [hk, cutOut?, if_pos (by simp)]
    have he : e = ⟨bytes lead, e.cut⟩ := eq_of_fields (hc rfl) rfl
    rw [pressAll?_cons ho rfl, if_pos rfl, ← he]
    rfl
  · have ho := hk.trans (cutOut?_of_ne_nil lead rest hp)
    rw [pressAll?_cons ho (Edit.apply?_delete lead piece rest), if_neg hp]
    rfl

theorem passes_back (hw : LastWord isAlnum lead word gap)
    (hc : bytes lead + bytes (word ++ gap) = e.cursor) (rest : List Char) :
    e.Passes (lead ++ ((word ++ gap) ++ rest)) lead (word ++ gap) rest (bytes lead)
      WordBackKey CutWordBackKey := by
  have hs := wordStart?_of_lastWord hw hc rest
  have h : isPosition (lead ++ ((word ++ gap) ++ rest)) e.cursor := by
    rw [← hc, ← bytes_append, ← List.append_assoc]
    exact isPosition_append (lead ++ (word ++ gap)) rest
  refine ⟨rfl, isPosition_append lead _, ?_, ?_⟩
  · intro k hk
    rw [press?_of_command h hk.command, run?, hs, Option.map_some]
  · intro k hk
    refine pressAll?_of_cutOut? ?_ fun hp => ?_
    · rw [press?_of_command h hk.command, run?, hs, Option.bind_some, hc]
    · rw [← hc, hp, bytes_nil, Nat.add_zero]

theorem passes_forward (hw : FirstWord isAlnum gap word rest) (hc : bytes lead = e.cursor) :
    e.Passes (lead ++ ((gap ++ word) ++ rest)) lead (gap ++ word) rest
      (bytes lead + bytes (gap ++ word)) WordForwardKey CutWordForwardKey := by
  have hs := wordEnd?_of_firstWord hw hc
  have h : isPosition (lead ++ ((gap ++ word) ++ rest)) e.cursor := by
    rw [← hc]
    exact isPosition_append lead _
  have hn : isPosition (lead ++ ((gap ++ word) ++ rest)) (bytes lead + bytes (gap ++ word)) := by
    rw [← bytes_append, ← List.append_assoc]
    exact isPosition_append (lead ++ (gap ++ word)) rest
  refine ⟨rfl, hn, ?_, ?_⟩
  · intro k hk
    rw [press?_of_command h hk.command, run?, hs, Option.map_some]
  · intro k hk
    refine pressAll?_of_cutOut? ?_ fun _ => hc.symm
    rw [press?_of_command h hk.command, run?, hs, Option.bind_some, hc]

/-- From any position of a text, the keys that go back by a word stop where letters and numbers, and
other characters after them, lead up to the cursor, and no letter or number stands right before. The
keys that go forward stop where other characters, and letters and numbers after them, lead from the
cursor, and no letter or number stands right after. The keys that cut a word take out what these pass. -/
theorem press?_words (h : isPosition cs e.cursor) :
    (∃ lead word gap rest, LastWord isAlnum lead word gap ∧
      bytes lead + bytes (word ++ gap) = e.cursor ∧ bytes lead ≤ e.cursor ∧
      e.Passes cs lead (word ++ gap) rest (bytes lead) WordBackKey CutWordBackKey) ∧
    ∃ lead gap word rest, FirstWord isAlnum gap word rest ∧
      bytes lead = e.cursor ∧ e.cursor ≤ bytes lead + bytes (gap ++ word) ∧
      e.Passes cs lead (gap ++ word) rest (bytes lead + bytes (gap ++ word))
        WordForwardKey CutWordForwardKey := by
  obtain ⟨head, tail, rfl, hc⟩ := isPosition_iff.1 h
  constructor
  · obtain ⟨lead, word, gap, rfl, hw⟩ := exists_lastWord isAlnum head
    rw [bytes_append] at hc
    refine ⟨lead, word, gap, tail, hw, hc, by omega, ?_⟩
    rw [List.append_assoc]
    exact passes_back hw hc tail
  · obtain ⟨gap, word, rest, rfl, hw⟩ := exists_firstWord isAlnum tail
    refine ⟨head, gap, word, rest, hw, hc, by omega, ?_⟩
    rw [← List.append_assoc gap]
    exact passes_forward hw hc

/-- Words of wide characters on both sides, with a gap on each. -/
theorem press?_words_wide :
    let cs := ['a', '_', 'é', '1', '-', ' ', '日', '本', '–']
    let e : Editor := ⟨6, ['x']⟩
    isPosition cs e.cursor ∧
      (∃ lead word gap rest, LastWord isAlnum lead word gap ∧ bytes lead = 2 ∧
        e.Passes cs lead (word ++ gap) rest 2 WordBackKey CutWordBackKey) ∧
      ∃ lead gap word rest, FirstWord isAlnum gap word rest ∧ bytes lead = 6 ∧
        e.Passes cs lead (gap ++ word) rest 13 WordForwardKey CutWordForwardKey := by
  intro cs e
  have h : isPosition cs e.cursor := by decide +kernel
  have hb : (e.press? cs ⟨.char 'b', false, true, false⟩).map (·.editor.cursor) = some 2 := by
    decide +kernel
  have hf : (e.press? cs ⟨.char 'f', false, true, false⟩).map (·.editor.cursor) = some 13 := by
    decide +kernel
  obtain ⟨⟨lead, word, gap, rest, hw, -, -, hback⟩, lead', gap', word', rest', hw', hc, -, hforward⟩ :=
    press?_words h
  rw [hback.moves _ (.letter false)] at hb
  rw [hforward.moves _ (.letter false)] at hf
  have hstart : bytes lead = 2 := Option.some.inj hb
  have hstop : bytes lead' + bytes (gap' ++ word') = 13 := Option.some.inj hf
  rw [hstart] at hback
  rw [hstop] at hforward
  exact ⟨h, ⟨lead, word, gap, rest, hw, hstart, hback⟩, lead', gap', word', rest', hw', hc, hforward⟩

end Editor

end Tether.Line
