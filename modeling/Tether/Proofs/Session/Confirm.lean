import Tether.Proofs.Session.Run

/-! Text that is inserted into the input stands there as it was typed, but for the ASCII case of the
word at the cursor when an offer is confirmed: `text_of_insert`. -/
namespace Tether
open Text Complete

namespace Line.Command
variable {k : Key}

theorem ofCtrl_ne_insert (c x : Char) : ofCtrl c ≠ some (.insert x) := by
  unfold ofCtrl
  split <;> simp

theorem eq_of_ofCtrl_yank {c : Char} (h : ofCtrl c = some .yank) : c = 'y' := by
  unfold ofCtrl at h
  split at h <;> simp_all

/-- Only characters insert text, and with control only the `y` that yanks. -/
theorem code_of_ofKey {x : Char} (h : ofKey k = some (.insert x) ∨ ofKey k = some .yank) :
    ∃ c, k.code = .char c ∧ (k.ctrl → c = 'y') := by
  obtain ⟨code, ctrl, alt, shift⟩ := k
  cases code with
  | char c =>
    refine ⟨c, rfl, ?_⟩
    rintro rfl
    have h : ofCtrl c = some (.insert x) ∨ ofCtrl c = some .yank := h
    exact eq_of_ofCtrl_yank (h.resolve_left (ofCtrl_ne_insert c x))
  | backspace => cases alt <;> simp [ofKey] at h
  | left | right => cases ctrl <;> cases alt <;> simp [ofKey, Key.isPlain] at h
  | _ => simp [ofKey] at h

end Line.Command

namespace Line.Editor
variable {e : Editor} {cs : List Char} {k : Key} {o : Outcome} {n : Nat} {t : List Char}

theorem insert_of_press? (h : isPosition cs e.cursor) (ho : e.press? cs k = some o)
    (hi : o.edit = some (.insert n t)) :
    o = e.type t ∧ ∃ c, k.code = .char c ∧ (k.ctrl → c = 'y') := by
  rw [press?_of_isPosition h] at ho
  split at ho
  · cases ho
    cases hi
  next c hk =>
    obtain ⟨ht, hc⟩ := insert_of_run? ho hi
    refine ⟨ht, ?_⟩
    rcases hc with ⟨x, rfl, -⟩ | ⟨rfl, -⟩
    · exact Command.code_of_ofKey (.inl hk)
    · exact Command.code_of_ofKey (x := 'y') (.inr hk)

end Line.Editor

namespace Session
variable {s : Session} {k : Key} {t : List Char}

theorem press?_char {c : Char} (ht : s.tab = none) (hb : s.browse = none) (hk : k.code = .char c)
    (hy : k.ctrl → c = 'y') (hc : ¬ (c = ':' ∧ s.mode = .eval ∧ s.input.value = [])) :
    s.press? k = (s.edit? k).map (·, []) := by
  have ha : isAltArrow k = false := by simp [isAltArrow, hk]
  have hn : (if k.ctrl then s.control? k else none) = none := by
    split
    next h =>
      rw [hy h] at hk
      simp [control?, hk]
    next => rfl
  have hp : s.plain? k = (s.edit? k).map (·, []) := by
    by_cases hx : c = ':'
    · subst hx
      have hi : (k.isPlain && s.mode = .eval && s.input.value.isEmpty) = false := by simp_all
      simp only [plain?, hk, hi, Bool.false_eq_true, if_false]
    · simp [plain?, hk, hx]
  rw [press?_left ha (by simp [ht]), left_of_none ht hb, hn, Option.none_or, hp]

theorem exists_mem_of_confirmed? {w : Word} {ms : List Match} {name : List Char}
    (h : confirmed? w ms = some name) : ∃ m ∈ ms, m.name.toList = name := by
  unfold confirmed? at h
  split at h
  next m =>
    split at h
    · exact ⟨m, List.mem_singleton.2 rfl, Option.some.inj h⟩
    · cases h
  · cases h

theorem edit?_of_insert {before after : List Char} (hv : s.input.value = before ++ after)
    (hn : bytes before = s.input.cursor)
    (ho : s.input.editor.press? s.input.value k = some (s.input.editor.type t)) :
    ∃ input : Input, input.value = before ++ t ++ after ∧ input.cursor = bytes (before ++ t) ∧
      s.edit? k = some ({ s with input := input }.stopBrowsing.refresh true) := by
  have hs : Line.Edit.apply? s.input.value (.insert s.input.editor.cursor t) =
      some (before ++ t ++ after) := by
    have hp := Line.Edit.apply?_insert before after t
    rwa [← hv, hn] at hp
  refine ⟨⟨before ++ t ++ after, ⟨s.input.editor.cursor + bytes t, s.input.editor.cut⟩⟩, rfl, ?_, ?_⟩
  · rw [bytes_append, hn]
    rfl
  · have hp : s.input.press? k = some (⟨before ++ t ++ after,
        ⟨s.input.editor.cursor + bytes t, s.input.editor.cut⟩⟩, .inserted, none) := by
      rw [Input.press?, ho, Option.bind_eq_bind, Option.bind_some]
      dsimp only [Line.Editor.type]
      rw [hs]
      rfl
    rw [edit?, hp]
    rfl

theorem refresh_confirm (s : Session) :
    (s.refresh true).input = s.input ∨
    ∃ c ∈ (s.refresh true).candidates,
      (s.refresh true).input =
        confirmedInput s.input (wordAt s.input.value s.input.cursor) c.name.toList ∧
      c.name.toList.map Char.toLower =
        (wordAt s.input.value s.input.cursor).text.map Char.toLower ∧
      (s.refresh true).offers = [] := by
  rw [refresh]
  dsimp only
  split
  next => exact .inl rfl
  next name hn =>
    have hn : confirmed? (wordAt s.input.value s.input.cursor) s.inputOffers.2 = some name := hn
    obtain ⟨m, hm, rfl⟩ := exists_mem_of_confirmed? hn
    exact .inr ⟨m.candidate, mem_offersFor hm, rfl, equalIgnoringCase_of_confirmed? hn, rfl⟩

/-- A session in which the word `w` at the cursor of an input, between `l` and `r`, may have taken the
case of a candidate. -/
structure Recased (i : Input) (l w w' r : List Char) (s : Session) : Prop where
  word : wordAt i.value i.cursor = ⟨w, bytes l, bytes (l ++ w)⟩
  before : i.value = l ++ w ++ r
  after : s.input.value = l ++ w' ++ r
  case : w'.map Char.toLower = w.map Char.toLower
  kept : w' = w → s.input.cursor = i.cursor
  changed : w' ≠ w → (∃ c ∈ s.candidates, c.name.toList = w') ∧ s.offers = [] ∧
    s.input.cursor = bytes (l ++ w')

theorem exists_recased (s : Session) : ∃ l w w' r, Recased s.input l w w' r (s.refresh true) := by
  obtain ⟨l, r, hv, hl, hs, -, -⟩ := exists_wordAt s.input.value s.input.cursor
  have hr := refresh_confirm s
  generalize hw : wordAt s.input.value s.input.cursor = w at hv hl hs hr
  have hw' : wordAt s.input.value s.input.cursor = ⟨w.text, bytes l, bytes (l ++ w.text)⟩ := by
    rw [hw, bytes_append, hl, ← hs]
  have hb : s.input.value = l ++ w.text ++ r := by rw [hv, List.append_assoc]
  rcases hr with hi | ⟨c, hc, hi, he, ho⟩
  · exact ⟨l, w.text, w.text, r, hw', hb, by rw [hi, hb], rfl, fun _ => by rw [hi],
      fun h => absurd rfl h⟩
  · by_cases hn : c.name.toList = w.text
    · rw [confirmedInput, if_pos hn] at hi
      exact ⟨l, w.text, w.text, r, hw', hb, by rw [hi, hb], rfl, fun _ => by rw [hi],
        fun h => absurd rfl h⟩
    · rw [confirmedInput_of_ne hn hv hl hs] at hi
      have hcur : (s.refresh true).input.cursor = bytes (l ++ c.name.toList) := by
        rw [hi]
        exact Input.cursor_set (isPosition_append _ r)
      exact ⟨l, w.text, c.name.toList, r, hw', hb, by rw [hi]; rfl, he, fun h => absurd h hn,
        fun _ => ⟨⟨c, hc, rfl⟩, ho, hcur⟩⟩

/-- A key that makes the input line insert a text puts it at the cursor. The word that is at the
cursor then can only change in ASCII case: if it does it is the name of a candidate, nothing more is
offered, and the cursor is at its end; else the cursor is behind the text. -/
theorem text_of_insert {d : Document} {h : History} {name : String} {width : Nat}
    {matcher : Complete.Matcher} {s : Session} {requests : List Request}
    (hr : Reached (initial d h name width matcher) s requests) (ht : s.tab = none)
    (hb : s.browse = none) {k : Key} {o : Line.Outcome} {n : Nat} {t : List Char}
    (ho : s.input.editor.press? s.input.value k = some o) (hi : o.edit = some (.insert n t))
    (hc : ¬ (k.code = .char ':' ∧ s.mode = .eval ∧ s.input.value = [])) :
    ∃ s' before after, s.press? k = some (s', []) ∧
      s.input.value = before ++ after ∧ bytes before = s.input.cursor ∧
      ∃ l w w' r, before ++ t ++ after = l ++ w ++ r ∧
        wordAt (before ++ t ++ after) (bytes (before ++ t)) = ⟨w, bytes l, bytes (l ++ w)⟩ ∧
        s'.input.value = l ++ w' ++ r ∧ w'.map Char.toLower = w.map Char.toLower ∧
        (w' = w → s'.input.cursor = s.input.cursor + bytes t) ∧
        (w' ≠ w → (∃ c ∈ s'.candidates, c.name.toList = w') ∧ s'.offers = [] ∧
          s'.input.cursor = bytes (l ++ w')) := by
  have hs := hr.sound
  obtain ⟨before, after, hv, hn⟩ := isPosition_iff.1 hs.cursor
  obtain ⟨rfl, c, hk, hy⟩ := Line.Editor.insert_of_press? hs.cursor ho hi
  obtain ⟨input, hx, hcur, he⟩ := edit?_of_insert hv hn ho
  have hp : s.press? k = some ({ s with input := input }.stopBrowsing.refresh true, []) := by
    rw [press?_char ht hb hk hy fun h => hc ⟨h.1 ▸ hk, h.2⟩, he, Option.map_some]
  obtain ⟨l, w, w', r, hrec⟩ := exists_recased ({ s with input := input }.stopBrowsing)
  have hin : ({ s with input := input }.stopBrowsing).input = input := rfl
  rw [hin] at hrec
  refine ⟨_, before, after, hp, hv, hn, l, w, w', r, ?_, ?_, hrec.after, hrec.case, ?_, hrec.changed⟩
  · rw [← hx, hrec.before]
  · rw [← hx, ← hcur, hrec.word]
  · intro hw
    rw [hrec.kept hw, hcur, bytes_append, hn]

/-- A name in small letters, typed behind its path and before a sum, is confirmed. -/
theorem text_of_insert_name : ∃ s s' l w r,
    Leads (new ⟨[.block "n" [.leaf "Ab" [] ⟨"1", .int 1⟩]]⟩ ⟨[⟨.eval, "n.a+1"⟩], none⟩ "t" 80)
      [⟨.up, false, false, false⟩, ⟨.left, false, false, false⟩, ⟨.left, false, false, false⟩] s ∧
    s.press? (.char 'b') = some (s', []) ∧ s'.input.value = ['n', '.', 'A', 'b', '+', '1'] ∧
    s'.input.value = l ++ w ++ r ∧ (∃ c ∈ s'.candidates, c.name.toList = w) ∧ s'.offers = [] ∧
    s'.input.cursor = bytes (l ++ w) := by
  have hk : ((new ⟨[.block "n" [.leaf "Ab" [] ⟨"1", .int 1⟩]]⟩ ⟨[⟨.eval, "n.a+1"⟩], none⟩ "t" 80).run?
      ([⟨.up, false, false, false⟩, ⟨.left, false, false, false⟩,
        ⟨.left, false, false, false⟩].map .key)).map (fun r => (r.1.tab.isNone && r.1.browse.isNone,
          r.1.input.value, r.1.input.cursor,
          (r.1.press? (.char 'b')).map fun r => r.1.input.value)) =
        some (true, ['n', '.', 'a', '+', '1'], 3, some ['n', '.', 'A', 'b', '+', '1']) := by
    decide +kernel
  obtain ⟨⟨s, all⟩, hr, hs⟩ := Option.map_eq_some_iff.1 hk
  simp only [Prod.mk.injEq, Bool.and_eq_true, Option.isNone_iff_eq_none] at hs
  obtain ⟨⟨ht, hb⟩, hv, hn, hp⟩ := hs
  obtain ⟨last, hd⟩ := Reached.start.run hr
  have ho : s.input.editor.press? s.input.value (.char 'b') =
      some (({ s.input.editor with cursor := min s.input.editor.cursor (bytes s.input.value) } :
        Line.Editor).type ['b']) := rfl
  obtain ⟨s', a, d, hp', hv', hn', l, w, w', r, hw, -, hx, -, -, hc⟩ :=
    text_of_insert hd ht hb ho rfl (by simp [Key.char])
  rw [hp', Option.map_some, Option.some.injEq] at hp
  have ha : a = ['n', '.', 'a'] ∧ d = ['+', '1'] := by
    have hi : splitAt? s.input.value 3 = some (a, d) :=
      splitAt?_eq_some.2 ⟨hv', hn'.trans hn⟩
    rw [hv] at hi
    exact Prod.mk.inj (Option.some.inj hi.symm)
  have hne : w' ≠ w := by
    rintro rfl
    rw [← hx, hp, ha.1, ha.2] at hw
    exact absurd hw (by decide)
  exact ⟨s, s', l, w', r, ⟨all, hr⟩, hp', hp, hx, hc hne⟩

end Session

end Tether
