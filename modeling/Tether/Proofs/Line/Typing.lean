import Tether.Proofs.Line.Cursor

/-! Keys pressed one after the other over a text. But for the one that cuts a big word, none cuts a
character in two: `pressAll?_within`. -/
namespace Tether.Line
open Text

def Edit.start : Edit → Nat
  | delete start _ => start
  | insert start _ => start

def Edit.stop : Edit → Nat
  | delete _ stop => stop
  | insert start _ => start

/-- An edit between two positions of a text, in order; an insertion has one. -/
structure Edit.Within (d : Edit) (cs : List Char) : Prop where
  start : isPosition cs d.start
  stop : isPosition cs d.stop
  order : d.start ≤ d.stop
  bound : d.stop ≤ bytes cs

theorem Edit.within_delete {cs : List Char} {start stop : Nat} (hs : isPosition cs start)
    (ht : isPosition cs stop) (h : start ≤ stop) : (Edit.delete start stop).Within cs :=
  ⟨hs, ht, h, le_bytes_of_isPosition ht⟩

theorem Edit.within_insert {cs : List Char} {start : Nat} (h : isPosition cs start)
    (text : List Char) : (Edit.insert start text).Within cs :=
  ⟨h, h, Nat.le_refl start, le_bytes_of_isPosition h⟩

theorem Edit.Within.exists_applied {d : Edit} {cs : List Char} (h : d.Within cs) :
    ∃ v, d.apply? cs = some v := by
  obtain ⟨a, m, b, rfl, hs, ht⟩ := exists_append_of_isPosition h.start h.stop h.order
  cases d with
  | delete start stop =>
    cases hs
    cases ht
    exact ⟨_, Edit.apply?_delete a m b⟩
  | insert start text =>
    cases hs
    exact ⟨_, Edit.apply?_insert a (m ++ b) text⟩

namespace Editor
variable {e : Editor} {cs : List Char}

def Serves (o? : Option Outcome) (cs : List Char) : Prop :=
  ∃ o, o? = some o ∧ ∀ d ∈ o.edit, d.Within cs

theorem serves_still (e : Editor) (cs : List Char) : Serves (some e.still) cs := ⟨_, rfl, nofun⟩

theorem serves_moved (e : Editor) (cs : List Char) (n : Nat) : Serves (some (e.moved n)) cs :=
  ⟨_, rfl, nofun⟩

theorem serves_act (e : Editor) (cs : List Char) (a : Action) :
    Serves (some ⟨e, none, some a⟩) cs :=
  ⟨_, rfl, nofun⟩

theorem serves_type (h : isPosition cs e.cursor) (text : List Char) :
    Serves (some (e.type text)) cs := by
  refine ⟨_, rfl, ?_⟩
  rintro d ⟨⟩
  exact Edit.within_insert h text

theorem serves_delete {start stop : Nat} (hs : isPosition cs start) (ht : isPosition cs stop)
    (h : start ≤ stop) (e' : Editor) : Serves (some ⟨e', some (.delete start stop), none⟩) cs := by
  refine ⟨_, rfl, ?_⟩
  rintro d ⟨⟩
  exact Edit.within_delete hs ht h

theorem serves_cutOut? {start stop : Nat} (hs : isPosition cs start) (ht : isPosition cs stop) :
    Serves (e.cutOut? cs start stop) cs := by
  rw [cutOut?]
  split
  · exact serves_still e cs
  next h =>
    have hle : start ≤ stop := by omega
    obtain ⟨a, m, b, rfl, rfl, rfl⟩ := exists_append_of_isPosition hs ht hle
    rw [slice?_append]
    exact serves_delete hs ht hle _

theorem exists_splitAt? (h : isPosition cs e.cursor) : ∃ p, splitAt? cs e.cursor = some p :=
  Option.isSome_iff_exists.1 h

theorem exists_wordStart? (h : isPosition cs e.cursor) : ∃ n, e.wordStart? cs = some n := by
  obtain ⟨p, hp⟩ := exists_splitAt? h
  exact ⟨_, by rw [wordStart?, hp]; rfl⟩

theorem exists_wordEnd? (h : isPosition cs e.cursor) : ∃ n, e.wordEnd? cs = some n := by
  obtain ⟨p, hp⟩ := exists_splitAt? h
  exact ⟨_, by rw [wordEnd?, hp]; rfl⟩

theorem serves_run? {c : Command} (h : isPosition cs e.cursor) (hc : c ≠ .cutBigWordBack) :
    Serves (e.run? cs c) cs := by
  have hend := isPosition_bytes cs
  cases c with
  | insert c => exact serves_type h [c]
  | toStart => exact serves_moved e cs _
  | toEnd => exact serves_moved e cs _
  | back => exact serves_moved e cs _
  | forward => exact serves_moved e cs _
  | wordBack =>
    obtain ⟨n, hn⟩ := exists_wordStart? h
    rw [run?, hn]
    exact serves_moved e cs n
  | wordForward =>
    obtain ⟨n, hn⟩ := exists_wordEnd? h
    rw [run?, hn]
    exact serves_moved e cs n
  | cutToEnd => exact serves_cutOut? h hend
  | cutToStart => exact serves_cutOut? (isPosition_zero cs) h
  | cutWord =>
    obtain ⟨n, hn⟩ := exists_wordEnd? h
    rw [run?, hn]
    exact serves_cutOut? h (isPosition_wordEnd? hn)
  | cutWordBack =>
    obtain ⟨n, hn⟩ := exists_wordStart? h
    rw [run?, hn]
    exact serves_cutOut? (isPosition_wordStart? hn) h
  | cutBigWordBack => exact absurd rfl hc
  | yank =>
    rw [run?]
    split
    · exact serves_still e cs
    · exact serves_type h e.cut
  | deleteBack =>
    simp only [run?]
    split
    · exact serves_still e cs
    · have hle := floor_le cs (e.cursor - 1)
      exact serves_delete (isPosition_floor cs _) h (by omega) _
  | deleteForward =>
    simp only [run?]
    split
    · exact serves_still e cs
    next hlt =>
      have hle : e.cursor + 1 ≤ ceil cs (e.cursor + 1) := le_ceil (by omega)
      exact serves_delete h (isPosition_ceil cs _) (by omega) _
  | act a => exact serves_act e cs a

def cutsBigWord (k : Key) : Bool := k.ctrl && k.code = .char 'w'

theorem eq_of_ofCtrl {c : Char} (h : Command.ofCtrl c = some .cutBigWordBack) : c = 'w' := by
  unfold Command.ofCtrl at h
  split at h <;> first | rfl | cases h

theorem ne_of_ofAlt {c : Char} : Command.ofAlt c ≠ some .cutBigWordBack := by
  unfold Command.ofAlt
  split <;> exact nofun

theorem cutsBigWord_of_ofKey {k : Key} (h : Command.ofKey k = some .cutBigWordBack) :
    cutsBigWord k := by
  obtain ⟨code, ctrl, alt, shift⟩ := k
  cases code with
  | char c =>
    change (if ctrl then Command.ofCtrl c else if alt then Command.ofAlt c else some (.insert c)) =
      some .cutBigWordBack at h
    split at h
    next hc =>
      obtain rfl := eq_of_ofCtrl h
      rw [cutsBigWord, hc]
      rfl
    · split at h
      · exact absurd h ne_of_ofAlt
      · cases h
  | backspace => cases alt <;> cases h
  | left | right => cases ctrl <;> cases alt <;> cases h
  | _ => cases h

theorem serves_press? {k : Key} (h : isPosition cs e.cursor) (hk : cutsBigWord k = false) :
    Serves (e.press? cs k) cs := by
  rw [press?_of_isPosition h]
  split
  · exact serves_still e cs
  next c hc =>
    refine serves_run? h fun hw => ?_
    rw [cutsBigWord_of_ofKey (hw ▸ hc)] at hk
    cases hk

/-- Keys over a text, with the edit of each applied before the next one. -/
def pressAll? (e : Editor) (cs : List Char) : List Key → Option (Editor × List Char)
  | [] => some (e, cs)
  | k :: ks => do
    let o ← e.press? cs k
    let cs ← o.applied? cs
    o.editor.pressAll? cs ks

theorem exists_of_serves {k : Key} (h : isPosition cs e.cursor) (hs : Serves (e.press? cs k) cs) :
    ∃ o v, e.press? cs k = some o ∧ o.applied? cs = some v ∧ isPosition v o.editor.cursor := by
  obtain ⟨o, ho, hd⟩ := hs
  have hv : ∃ v, o.applied? cs = some v := by
    rw [Outcome.applied?]
    split
    · exact ⟨cs, rfl⟩
    next d he => exact (hd d he).exists_applied
  obtain ⟨v, hv⟩ := hv
  exact ⟨o, v, ho, hv, (fits_press? h ho).isPosition hv⟩

theorem exists_pressAll? {keys : List Key} (h : isPosition cs e.cursor)
    (hk : ∀ k ∈ keys, cutsBigWord k = false) :
    ∃ e' v, e.pressAll? cs keys = some (e', v) ∧ isPosition v e'.cursor := by
  induction keys generalizing e cs with
  | nil => exact ⟨e, cs, rfl, h⟩
  | cons k ks ih =>
    obtain ⟨hk, hks⟩ := List.forall_mem_cons.1 hk
    obtain ⟨o, v, ho, hv, hp⟩ := exists_of_serves h (serves_press? h hk)
    obtain ⟨e', v', hr, hp'⟩ := ih hp hks
    refine ⟨e', v', ?_, hp'⟩
    rw [pressAll?, ho, Option.bind_eq_bind, Option.bind_some, hv]
    exact hr

/-- From any place in a text, keys lead to a text with its cursor on a position, and the next one
asks for an edit, if at all, between positions of that text. -/
theorem pressAll?_within {keys : List Key} (hk : ∀ k ∈ keys, cutsBigWord k = false) (e : Editor)
    (cs : List Char) (n : Nat) :
    ∃ e' v, (e.place cs n).pressAll? cs keys = some (e', v) ∧ isPosition v e'.cursor ∧
      e'.cursor ≤ bytes v ∧
      ∀ k, cutsBigWord k = false → ∃ o, e'.press? v k = some o ∧ ∀ d ∈ o.edit, d.Within v := by
  have h : isPosition cs (e.place cs n).cursor := isPosition_floor cs n
  obtain ⟨e', v, hr, hp⟩ := exists_pressAll? h hk
  exact ⟨e', v, hr, hp, le_bytes_of_isPosition hp, fun k hk => serves_press? hp hk⟩

/-- Characters of two, three and four bytes: a word back from inside the last one, a cut to the end,
and the cut text twice. -/
theorem pressAll?_within_wide : ∃ e' v,
    (Editor.new.place ['é', ' ', '日', '😀'] 8).pressAll? ['é', ' ', '日', '😀']
      [⟨.char 'b', false, true, false⟩, ⟨.char 'k', true, false, false⟩,
        ⟨.char 'y', true, false, false⟩, ⟨.char 'y', true, false, false⟩] = some (e', v) ∧
    v = ['é', ' ', '日', '😀', '日', '😀'] ∧ isPosition v e'.cursor ∧ e'.cursor ≤ bytes v ∧
    ∀ k, cutsBigWord k = false → ∃ o, e'.press? v k = some o ∧ ∀ d ∈ o.edit, d.Within v := by
  have hk : ∀ k ∈ [(⟨.char 'b', false, true, false⟩ : Key), ⟨.char 'k', true, false, false⟩,
      ⟨.char 'y', true, false, false⟩, ⟨.char 'y', true, false, false⟩],
      cutsBigWord k = false := by decide
  obtain ⟨e', v, hr, hp, hl, hn⟩ := pressAll?_within hk .new ['é', ' ', '日', '😀'] 8
  have hv : ((Editor.new.place ['é', ' ', '日', '😀'] 8).pressAll? ['é', ' ', '日', '😀']
      [⟨.char 'b', false, true, false⟩, ⟨.char 'k', true, false, false⟩,
        ⟨.char 'y', true, false, false⟩, ⟨.char 'y', true, false, false⟩]).map Prod.snd =
      some ['é', ' ', '日', '😀', '日', '😀'] := by
    decide +kernel
  rw [hr] at hv
  exact ⟨e', v, hr, Option.some.inj hv, hp, hl, hn⟩

end Editor

end Tether.Line
