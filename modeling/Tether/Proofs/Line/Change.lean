import Tether.Proofs.Line.BigWord

/-! What a key says it did to an input is what it did: `tells_iff_of_press`. No command asks for an
edit that would leave the text as it is (`effective_run?`), so an edit always shows in the length of
the text, and without one the text stays. -/
namespace Tether
open Text Line

namespace Line

def Lacks (cs ds : List Char) : Prop := ∃ a m d, m ≠ [] ∧ ds = a ++ (m ++ d) ∧ cs = a ++ d

theorem Lacks.length_lt {cs ds : List Char} (h : Lacks cs ds) : cs.length < ds.length := by
  obtain ⟨a, m, d, hm, rfl, rfl⟩ := h
  have hp := List.length_pos_iff.2 hm
  simp only [List.length_append]
  omega

theorem Lacks.bytes_lt {cs ds : List Char} (h : Lacks cs ds) : bytes cs < bytes ds := by
  obtain ⟨a, m, d, hm, rfl, rfl⟩ := h
  have hp : bytes m ≠ 0 := mt bytes_eq_zero.1 hm
  simp only [bytes_append]
  omega

def Edit.Effective : Edit → Prop
  | delete start stop => start < stop
  | insert _ text => text ≠ []

theorem Edit.lacks_of_delete {cs v : List Char} {start stop : Nat}
    (h : (delete start stop).Effective) (ha : Edit.apply? cs (.delete start stop) = some v) :
    Lacks v cs := by
  obtain ⟨a, m, d, hcs, hs, ht, hv⟩ := splice?_eq_some.1 ha
  have hm : m ≠ [] := by
    intro hm
    have hlt : start < stop := h
    rw [hm, bytes_nil] at ht
    omega
  exact ⟨a, m, d, hm, hcs, by simpa using hv⟩

theorem Edit.lacks_of_insert {cs v text : List Char} {start : Nat}
    (h : (insert start text).Effective) (ha : Edit.apply? cs (.insert start text) = some v) :
    Lacks cs v := by
  obtain ⟨a, m, d, hcs, hs, ht, hv⟩ := splice?_eq_some.1 ha
  have hm : m = [] := bytes_eq_zero.1 (by omega)
  subst hm
  exact ⟨a, text, d, h, by simpa using hv, by simpa using hcs⟩

namespace Editor
variable {e : Editor} {cs : List Char} {o : Outcome}

theorem effective_cutOut? {start stop : Nat} (ho : e.cutOut? cs start stop = some o) :
    ∀ d ∈ o.edit, d.Effective := by
  intro d hd
  rw [cutOut?] at ho
  split at ho
  · cases ho
    cases hd
  next hlt =>
    obtain ⟨text, -, rfl⟩ := Option.map_eq_some_iff.1 ho
    cases hd
    exact Nat.lt_of_not_le hlt

theorem effective_run? {c : Command} (ho : e.run? cs c = some o) : ∀ d ∈ o.edit, d.Effective := by
  intro d hd
  cases c with
  | insert c =>
    cases ho
    cases hd
    exact List.cons_ne_nil c []
  | toStart | toEnd | back | forward | act =>
    cases ho
    cases hd
  | wordBack | wordForward =>
    obtain ⟨n, -, rfl⟩ := Option.map_eq_some_iff.1 ho
    cases hd
  | cutToEnd | cutToStart => exact effective_cutOut? ho d hd
  | cutWord | cutWordBack | cutBigWordBack =>
    obtain ⟨n, -, ho⟩ := Option.bind_eq_some_iff.1 ho
    exact effective_cutOut? ho d hd
  | yank =>
    by_cases hc : e.cut = []
    · rw [run?, if_pos (by simp [hc])] at ho
      cases ho
      cases hd
    · rw [run?, if_neg (by simp [hc])] at ho
      cases ho
      cases hd
      exact hc
  | deleteBack =>
    have hf := floor_le cs (e.cursor - 1)
    by_cases hc : e.cursor = 0
    · rw [run?, if_pos hc] at ho
      cases ho
      cases hd
    · rw [run?, if_neg hc] at ho
      cases ho
      cases hd
      show floor cs (e.cursor - 1) < e.cursor
      omega
  | deleteForward =>
    by_cases hc : bytes cs ≤ e.cursor
    · rw [run?, if_pos hc] at ho
      cases ho
      cases hd
    · have hn : e.cursor + 1 ≤ ceil cs (e.cursor + 1) := le_ceil (by omega)
      rw [run?, if_neg hc] at ho
      cases ho
      cases hd
      show e.cursor < ceil cs (e.cursor + 1)
      omega

theorem effective_press? {k : Key} (ho : e.press? cs k = some o) : ∀ d ∈ o.edit, d.Effective := by
  rw [press?] at ho
  split at ho
  · cases ho
    intro d hd
    cases hd
  · exact effective_run? ho

end Editor

end Line

/-- What a change says of an input and what has become of it, with texts measured by `size`. -/
def Change.Tells (size : List Char → Nat) (i j : Input) : Change → Prop
  | .none => j.value = i.value ∧ j.cursor = i.cursor
  | .moved => j.value = i.value ∧ j.cursor ≠ i.cursor
  | .inserted => size i.value < size j.value
  | .deleted => size j.value < size i.value

namespace Input
variable {size : List Char → Nat} {i j : Input} {change c : Change} {action : Option Action}
  {k : Key}

/-- The change that two inputs show, the length of the text being looked at first. -/
def shown (size : List Char → Nat) (i j : Input) : Change :=
  if size i.value < size j.value then .inserted
  else if size j.value < size i.value then .deleted
  else if j.cursor = i.cursor then .none else .moved

theorem eq_shown_of_tells (h : change.Tells size i j) : change = shown size i j := by
  cases change with
  | none =>
    obtain ⟨hv, hc⟩ := h
    simp [shown, hv, hc]
  | moved =>
    obtain ⟨hv, hc⟩ := h
    simp [shown, hv, hc]
  | inserted =>
    have hlt : size i.value < size j.value := h
    simp [shown, hlt]
  | deleted =>
    have hlt : size j.value < size i.value := h
    have hge : ¬ size i.value < size j.value := by omega
    simp [shown, hlt, hge]

/-- No two changes say the same. -/
theorem tells_iff (h : change.Tells size i j) : change = c ↔ c.Tells size i j := by
  constructor
  · intro hc
    exact hc ▸ h
  · intro hc
    rw [eq_shown_of_tells h, eq_shown_of_tells hc]

/-- A key tells what it did, whichever way texts are measured, if a text with a piece taken out is
smaller. -/
theorem tells_of_press (hs : ∀ cs ds, Lacks cs ds → size cs < size ds)
    (hp : i.press? k = some (j, change, action)) : change.Tells size i j := by
  obtain ⟨o, ho, hp⟩ := Option.bind_eq_some_iff.1 hp
  have he := Editor.effective_press? ho
  split at hp
  next d hd =>
    obtain ⟨value, hv, hp⟩ := Option.bind_eq_some_iff.1 hp
    have hd := he d hd
    cases hp
    cases d with
    | delete start stop => exact hs _ _ (Edit.lacks_of_delete hd hv)
    | insert start text => exact hs _ _ (Edit.lacks_of_insert hd hv)
  next hn =>
    cases hp
    by_cases hc : o.editor.cursor = i.cursor
    · rw [if_pos hc]
      exact ⟨rfl, hc⟩
    · rw [if_neg hc]
      exact ⟨rfl, hc⟩

/-- From a position, every key that does not abort has an answer. The text has become longer,
in bytes and in characters, exactly when that says so, and shorter exactly when it says so; and else
it says whether the cursor is still where it was. -/
theorem tells_iff_of_press (h : isPosition i.value i.cursor) (hk : ¬ i.editor.Aborts i.value k) :
    ∃ j change action, i.press? k = some (j, change, action) ∧
      ∀ c : Change, (change = c ↔ c.Tells bytes i j) ∧ (change = c ↔ c.Tells List.length i j) := by
  obtain ⟨⟨j, change, action⟩, hp⟩ := Option.ne_none_iff_exists'.1 (mt (press?_eq_none h).1 hk)
  have hb : change.Tells bytes i j := tells_of_press (fun _ _ => Lacks.bytes_lt) hp
  have hl : change.Tells List.length i j := tells_of_press (fun _ _ => Lacks.length_lt) hp
  exact ⟨j, change, action, hp, fun c => ⟨tells_iff hb, tells_iff hl⟩⟩

/-- Wide characters cut back to a space leave a shorter text. -/
theorem tells_iff_of_press_wide :
    let i : Input := ⟨['é', ' ', '日', '本', '\u3000'], ⟨12, []⟩⟩
    let k : Key := ⟨.char 'w', true, false, false⟩
    isPosition i.value i.cursor ∧ ¬ i.editor.Aborts i.value k ∧
      ∃ j change action, i.press? k = some (j, change, action) ∧ j.value = ['é', ' '] ∧
        change = .deleted ∧ bytes j.value < bytes i.value := by
  intro i k
  have h : isPosition i.value i.cursor := by decide +kernel
  have hp : i.press? k = some (⟨['é', ' '], ⟨3, ['日', '本', '\u3000']⟩⟩, .deleted, none) := by rfl
  have hk : ¬ i.editor.Aborts i.value k := by
    intro hk
    rw [(press?_eq_none h).2 hk] at hp
    cases hp
  obtain ⟨j, change, action, hj, ht⟩ := tells_iff_of_press h hk
  rw [hp] at hj
  cases hj
  exact ⟨h, hk, _, _, _, hp, rfl, rfl, (ht .deleted).1.1 rfl⟩

end Input

end Tether
