import Tether.Proofs.Line.Change

/-! Keys that take back what another key did: what was cut is put back by yanking it, and a typed
character is erased again (`pressAll?_undone`). -/
namespace Tether.Line
open Text

/-- The keys that cut a piece of the text out: control with `k`, `u` or `w`, and alt with `d` or
backspace. -/
inductive CutKey : Key → Prop
  | toEnd (alt shift : Bool) : CutKey ⟨.char 'k', true, alt, shift⟩
  | toStart (alt shift : Bool) : CutKey ⟨.char 'u', true, alt, shift⟩
  | bigWordBack (alt shift : Bool) : CutKey ⟨.char 'w', true, alt, shift⟩
  | word (shift : Bool) : CutKey ⟨.char 'd', false, true, shift⟩
  | wordBack (ctrl shift : Bool) : CutKey ⟨.backspace, ctrl, true, shift⟩

inductive YankKey : Key → Prop
  | yank (alt shift : Bool) : YankKey ⟨.char 'y', true, alt, shift⟩

inductive TypeKey (c : Char) : Key → Prop
  | type (shift : Bool) : TypeKey c ⟨.char c, false, false, shift⟩

inductive EraseKey : Key → Prop
  | erase (ctrl shift : Bool) : EraseKey ⟨.backspace, ctrl, false, shift⟩

/-- An outcome that cuts a piece out of a text and leaves the cursor where it stood. -/
structure Outcome.Cuts (o : Outcome) (cs lead piece rest : List Char) : Prop where
  text : cs = lead ++ (piece ++ rest)
  nonempty : piece ≠ []
  outcome : o = ⟨⟨bytes lead, piece⟩, some (.delete (bytes lead) (bytes lead + bytes piece)), none⟩

namespace Editor
variable {e : Editor} {cs v : List Char} {o : Outcome} {k : Key} {ks : List Key} {d : Edit}

theorem cuts_of_cutOut? {start stop : Nat} (ho : e.cutOut? cs start stop = some o)
    (hd : o.edit = some d) : ∃ lead piece rest, o.Cuts cs lead piece rest := by
  rw [cutOut?] at ho
  split at ho
  · cases ho
    cases hd
  next hlt =>
    obtain ⟨piece, hs, rfl⟩ := Option.map_eq_some_iff.1 ho
    obtain ⟨lead, rest, hcs, rfl, rfl⟩ := slice?_eq_some.1 hs
    have hp : piece ≠ [] := by
      intro hp
      rw [hp, bytes_nil] at hlt
      omega
    exact ⟨lead, piece, rest, hcs, hp, rfl⟩

theorem cuts_of_press? (h : isPosition cs e.cursor) (hk : CutKey k) (ho : e.press? cs k = some o)
    (hd : o.edit = some d) : ∃ lead piece rest, o.Cuts cs lead piece rest := by
  rw [press?_of_isPosition h] at ho
  cases hk with
  | toEnd alt shift => exact cuts_of_cutOut? ho hd
  | toStart alt shift => exact cuts_of_cutOut? ho hd
  | bigWordBack alt shift =>
    obtain ⟨n, -, ho⟩ := Option.bind_eq_some_iff.1 ho
    exact cuts_of_cutOut? ho hd
  | word shift =>
    obtain ⟨n, -, ho⟩ := Option.bind_eq_some_iff.1 ho
    exact cuts_of_cutOut? ho hd
  | wordBack ctrl shift =>
    have ho : e.run? cs .cutWordBack = some o := by cases ctrl <;> exact ho
    obtain ⟨n, -, ho⟩ := Option.bind_eq_some_iff.1 ho
    exact cuts_of_cutOut? ho hd

theorem press?_of_yankKey (h : isPosition cs e.cursor) (hk : YankKey k) (hc : e.cut ≠ []) :
    e.press? cs k = some (e.type e.cut) := by
  rw [press?_of_isPosition h]
  cases hk with
  | yank alt shift =>
    show some (if e.cut.isEmpty then e.still else e.type e.cut) = some (e.type e.cut)
    rw [if_neg (by simpa using hc)]

theorem press?_of_typeKey {c : Char} (h : isPosition cs e.cursor) (hk : TypeKey c k) :
    e.press? cs k = some (e.type [c]) := by
  rw [press?_of_isPosition h]
  cases hk with
  | type shift => rfl

theorem press?_of_eraseKey (a b : List Char) (c : Char) (hk : EraseKey k)
    (hc : e.cursor = bytes a + c.utf8Size) :
    e.press? (a ++ c :: b) k =
      some ⟨{ e with cursor := bytes a }, some (.delete (bytes a) (bytes a + c.utf8Size)), none⟩ := by
  have hpos := c.utf8Size_pos
  have h : isPosition (a ++ c :: b) e.cursor := by
    have hp := isPosition_append (a ++ [c]) b
    simpa [hc] using hp
  have hf : floor (a ++ c :: b) (e.cursor - 1) = bytes a := by
    have hn : e.cursor - 1 = bytes a + (c.utf8Size - 1) := by omega
    rw [hn]
    exact floor_inside a b (by omega)
  have hz : e.cursor ≠ 0 := by omega
  have hr : e.run? (a ++ c :: b) .deleteBack =
      some ⟨{ e with cursor := bytes a }, some (.delete (bytes a) (bytes a + c.utf8Size)), none⟩ := by
    simp only [run?]
    rw [if_neg hz, hf, hc]
  rw [press?_of_isPosition h]
  cases hk with
  | erase ctrl shift => cases ctrl <;> exact hr

theorem pressAll?_cons (ho : e.press? cs k = some o) (hv : o.applied? cs = some v) :
    e.pressAll? cs (k :: ks) = o.editor.pressAll? v ks := by
  rw [pressAll?, ho, Option.bind_eq_bind, Option.bind_some, hv]
  rfl

theorem applied?_type {a b : List Char} (hc : e.cursor = bytes a) (text : List Char) :
    (e.type text).applied? (a ++ b) = some (a ++ text ++ b) := by
  have ha := Edit.apply?_insert a b text
  rwa [← hc] at ha

theorem pressAll?_yank {lead piece rest : List Char} {y : Key} (ho : e.press? cs k = some o)
    (hc : o.Cuts cs lead piece rest) (hy : YankKey y) :
    e.pressAll? cs [k, y] = some (⟨bytes lead + bytes piece, piece⟩, cs) := by
  obtain ⟨rfl, hp, rfl⟩ := hc
  have hd := Edit.apply?_delete lead piece rest
  have hk := press?_of_yankKey (e := ⟨bytes lead, piece⟩) (isPosition_append lead rest) hy hp
  have hi := applied?_type (e := ⟨bytes lead, piece⟩) (b := rest) rfl piece
  rw [pressAll?_cons ho hd, pressAll?_cons hk hi, List.append_assoc]
  rfl

theorem pressAll?_singleton (ho : e.press? cs k = some o) (hv : o.applied? cs = some v) :
    e.pressAll? cs [k] = some (o.editor, v) := pressAll?_cons ho hv

/-- A typed character stands at the cursor, with the cursor behind it, and is erased again. -/
theorem pressAll?_erase {lead : List Char} (rest : List Char) {c : Char} {b : Key}
    (hc : e.cursor = bytes lead) (hk : TypeKey c k) (hb : EraseKey b) :
    e.pressAll? (lead ++ rest) [k] =
        some ({ e with cursor := e.cursor + c.utf8Size }, lead ++ c :: rest) ∧
      e.pressAll? (lead ++ rest) [k, b] = some (e, lead ++ rest) := by
  have h : isPosition (lead ++ rest) e.cursor := hc ▸ isPosition_append lead rest
  have hp := press?_of_typeKey h hk
  have hi : (e.type [c]).applied? (lead ++ rest) = some (lead ++ c :: rest) := by
    rw [applied?_type hc]
    simp
  have hn : (e.type [c]).editor.cursor = bytes lead + c.utf8Size := by
    show e.cursor + bytes [c] = bytes lead + c.utf8Size
    simp [hc]
  have he : (e.type [c]).editor.press? (lead ++ c :: rest) b = some
      ⟨{ e with cursor := bytes lead }, some (.delete (bytes lead) (bytes lead + c.utf8Size)),
        none⟩ := press?_of_eraseKey lead rest c hb hn
  have hd : Edit.apply? (lead ++ c :: rest) (.delete (bytes lead) (bytes lead + c.utf8Size)) =
      some (lead ++ rest) := Edit.apply?_delete lead [c] rest
  constructor
  · rw [pressAll?_singleton hp hi, hc, ← hn]
    rfl
  · rw [pressAll?_cons hp hi, pressAll?_singleton he hd, ← hc]

/-- From a position, a key that asks to cut out a range has that range's text yanked back by the
next one, with the cursor at the end of the range. A character that is typed stands where the cursor
was, and is erased by the next key, with the cursor where it was. -/
theorem pressAll?_undone (h : isPosition cs e.cursor) :
    (∀ k y o start stop, CutKey k → YankKey y → e.press? cs k = some o →
      o.edit = some (.delete start stop) → slice? cs start stop = some o.editor.cut ∧
        e.pressAll? cs [k, y] = some (⟨stop, o.editor.cut⟩, cs)) ∧
    ∀ k b c, TypeKey c k → EraseKey b →
      (∃ lead rest, cs = lead ++ rest ∧ bytes lead = e.cursor ∧
        e.pressAll? cs [k] = some ({ e with cursor := e.cursor + c.utf8Size }, lead ++ c :: rest)) ∧
      e.pressAll? cs [k, b] = some (e, cs) := by
  constructor
  · intro k y o start stop hk hy ho hd
    obtain ⟨lead, piece, rest, hc⟩ := cuts_of_press? h hk ho hd
    have hr := pressAll?_yank ho hc hy
    obtain ⟨hcs, hp, hout⟩ := hc
    subst hout
    cases hd
    exact ⟨slice?_eq_some.2 ⟨lead, rest, hcs, rfl, rfl⟩, hr⟩
  · intro k b c hk hb
    obtain ⟨lead, rest, rfl, hc⟩ := isPosition_iff.1 h
    obtain ⟨ht, he⟩ := pressAll?_erase rest hc.symm hk hb
    exact ⟨⟨lead, rest, rfl, hc, ht⟩, he⟩

/-- A word of wide characters in the middle of a line, and a character of four bytes. -/
theorem pressAll?_undone_wide :
    let cs := ['é', ' ', '日', '本', ' ', 'x']
    let e : Editor := ⟨9, ['o', 'l', 'd']⟩
    let w : Key := ⟨.char 'w', true, false, false⟩
    let y : Key := ⟨.char 'y', true, false, false⟩
    isPosition cs e.cursor ∧ e.pressAll? cs [w] = some (⟨3, ['日', '本']⟩, ['é', ' ', ' ', 'x']) ∧
      e.pressAll? cs [w, y] = some (⟨9, ['日', '本']⟩, cs) ∧
      e.pressAll? cs [.char '😀'] =
        some (⟨13, ['o', 'l', 'd']⟩, ['é', ' ', '日', '本', '😀', ' ', 'x']) ∧
      e.pressAll? cs [.char '😀', ⟨.backspace, false, false, false⟩] = some (e, cs) := by
  intro cs e w y
  have h : isPosition cs e.cursor := by decide +kernel
  have ho : e.press? cs w = some ⟨⟨3, ['日', '本']⟩, some (.delete 3 9), none⟩ := by rfl
  have hu := pressAll?_undone h
  exact ⟨h, by rfl, (hu.1 w y _ 3 9 (.bigWordBack false false) (.yank false false) ho rfl).2,
    by rfl, (hu.2 _ _ '😀' (.type false) (.erase false false)).2⟩

end Editor

end Tether.Line
