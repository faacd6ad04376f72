import Tether.Session.Update
import Tether.Proofs.Line.Cursor

/-! What a key can do to a session, said once: `pressed_of_press?`. -/
namespace Tether.Session
open Text
variable {s s' : Session} {k : Key} {r : Session × List Request} {forward : Bool}

/-- What is made of a session by going on through its offers: nothing if there is none. -/
inductive Turned (s : Session) : Session → Prop
  | still : Turned s s
  | shown {t : TabCycle} {input : Input} (ht : t.selected < s.offers.length)
      (hi : isPosition input.value input.cursor) :
      Turned s { s with tab := some t, input := input }.refreshCall

theorem turned_of_showSelected? {t : TabCycle} (ht : t.selected < s.offers.length)
    (h : { s with tab := some t }.showSelected? = some s') : Turned s s' := by
  rw [showSelected?] at h
  dsimp only at h
  rw [List.getElem?_eq_getElem ht] at h
  obtain ⟨text, -, rfl⟩ := Option.map_eq_some_iff.1 h
  exact .shown ht (Input.isPosition_set s.input text _)

theorem turned_of_startTab? (h : s.startTab? forward = some s') : Turned s s' := by
  rw [startTab?] at h
  split at h
  · cases h
    exact .still
  next hn =>
    have hl : 0 < s.offers.length := List.length_pos_iff.2 (mt List.isEmpty_iff.2 hn)
    refine turned_of_showSelected? ?_ h
    dsimp only
    split <;> omega

theorem turned_of_cycle? (h : s.cycle? forward = some s') : Turned s s' := by
  rw [cycle?] at h
  split at h
  · cases h
    exact .still
  · split at h
    · cases h
      exact .still
    next hn =>
      have hl : 0 < s.offers.length := List.length_pos_iff.2 (mt List.isEmpty_iff.2 hn)
      refine turned_of_showSelected? ?_ h
      dsimp only
      split
      · exact Nat.mod_lt _ hl
      · exact Nat.mod_lt _ hl

/-- What is made of a session by a key that goes to the input line. -/
inductive Edited (s : Session) (k : Key) : Session → Prop
  | still {input : Input} {action : Option Line.Action}
      (h : s.input.press? k = some (input, .none, action)) : Edited s k { s with input := input }
  | moved {input : Input} {action : Option Line.Action}
      (h : s.input.press? k = some (input, .moved, action)) :
      Edited s k ({ s with input := input }.refresh false)
  | inserted {input : Input} {action : Option Line.Action}
      (h : s.input.press? k = some (input, .inserted, action)) :
      Edited s k ({ s with input := input }.stopBrowsing.refresh true)
  | deleted {input : Input} {action : Option Line.Action}
      (h : s.input.press? k = some (input, .deleted, action)) :
      Edited s k ({ s with input := input }.stopBrowsing.refresh false)
  | quiet {s' : Session} (h : Edited s k s') : Edited s k { s' with offers := [] }

theorem edited_of_edit? (h : s.edit? k = some s') : Edited s k s' := by
  obtain ⟨⟨input, change, action⟩, hp, h⟩ := Option.bind_eq_some_iff.1 h
  have hq (s₁ : Session) (h₁ : Edited s k s₁)
      (e : (if action = some .cancel then { s₁ with offers := [] } else s₁) = s') :
      Edited s k s' := by
    subst e
    split
    · exact h₁.quiet
    · exact h₁
  have h := Option.some.inj h
  cases change with
  | none => exact hq _ (.still hp) h
  | moved => exact hq _ (.moved hp) h
  | inserted => exact hq _ (.inserted hp) h
  | deleted => exact hq _ (.deleted hp) h

/-- What a key does where neither offers nor, but for an arrow with alt, commands are gone
through. -/
inductive Handled (s : Session) (k : Key) : Session × List Request → Prop
  | interrupt (hc : k.ctrl) (hk : k.code = .char 'c') : Handled s k s.interrupt
  | quit (hc : k.ctrl) (hk : k.code = .char 'd') (hi : s.input.value = []) :
      Handled s k (s, [.quit])
  | clear (hc : k.ctrl) (hk : k.code = .char 'l') : Handled s k ({ s with transcript := [] }, [])
  | toggle (hc : k.ctrl) (hk : k.code = .char 't') :
      Handled s k (s.switchMode s.mode.toggled, [])
  | previous (hk : k.code = .up ∨ k.ctrl ∧ k.code = .char 'p') :
      Handled s k (s.previous (if k.ctrl then some s.mode else none), [])
  | following (hk : k.code = .down ∨ k.ctrl ∧ k.code = .char 'n') :
      Handled s k (s.following (if k.ctrl then some s.mode else none), [])
  | previousCommand (ha : k.alt) (hk : k.code = .up) : Handled s k (s.previousCommand, [])
  | followingCommand (ha : k.alt) (hk : k.code = .down) : Handled s k (s.followingCommand, [])
  | startTab {s' : Session} (hk : k.code = .tab ∨ k.code = .backTab) (h : Turned s s') :
      Handled s k (s', [])
  | submit (hk : k.code = .enter) : Handled s k s.submit
  | colon (hk : k.code = .char ':') (hp : k.isPlain) (hm : s.mode = .eval)
      (hi : s.input.value = []) : Handled s k (s.switchMode .command, [])
  | backspace (hk : k.code = .backspace) (hp : k.isPlain) (hm : s.mode = .command)
      (hi : s.input.value = []) : Handled s k (s.switchMode .eval, [])
  | escape (hk : k.code = .escape) (hm : s.mode = .command) :
      Handled s k (s.switchMode .eval, [])
  | edit {s' : Session} (h : Edited s k s') : Handled s k (s', [])

section Handled
variable (hc : k.ctrl)
include hc

theorem handled_previous (hk : k.code = .up ∨ k.code = .char 'p') :
    Handled s k (s.previous (some s.mode), []) := by
  have h := Handled.previous (s := s) (hk.imp_right fun hk => ⟨hc, hk⟩)
  rwa [if_pos hc] at h

theorem handled_following (hk : k.code = .down ∨ k.code = .char 'n') :
    Handled s k (s.following (some s.mode), []) := by
  have h := Handled.following (s := s) (hk.imp_right fun hk => ⟨hc, hk⟩)
  rwa [if_pos hc] at h

theorem handled_of_control? (h : s.control? k = some r) : Handled s k r := by
  rw [control?] at h
  split at h
  next hk => exact Option.some.inj h ▸ .interrupt hc hk
  next hk =>
    split at h
    next hi => exact Option.some.inj h ▸ .quit hc hk (List.isEmpty_iff.1 hi)
    next => cases h
  next hk => exact Option.some.inj h ▸ .clear hc hk
  next hk => exact Option.some.inj h ▸ .toggle hc hk
  next hk => exact Option.some.inj h ▸ handled_previous hc (.inr hk)
  next hk => exact Option.some.inj h ▸ handled_previous hc (.inl hk)
  next hk => exact Option.some.inj h ▸ handled_following hc (.inr hk)
  next hk => exact Option.some.inj h ▸ handled_following hc (.inl hk)
  next => cases h

end Handled

theorem handled_of_startTab? (hk : k.code = .tab ∨ k.code = .backTab)
    (h : (s.startTab? forward).map (fun s => (s, ([] : List Request))) = some r) :
    Handled s k r := by
  obtain ⟨s', ht, rfl⟩ := Option.map_eq_some_iff.1 h
  exact .startTab hk (turned_of_startTab? ht)

theorem handled_of_edit?
    (h : (s.edit? k).map (fun s => (s, ([] : List Request))) = some r) : Handled s k r := by
  obtain ⟨s', he, rfl⟩ := Option.map_eq_some_iff.1 h
  exact .edit (edited_of_edit? he)

theorem handled_of_plain? (hc : k.ctrl → k.code ≠ .up ∧ k.code ≠ .down) (h : s.plain? k = some r) :
    Handled s k r := by
  rw [plain?] at h
  dsimp only at h
  split at h
  next hk =>
    have hp := Handled.previous (s := s) (.inl hk)
    rw [if_neg fun hx => (hc hx).1 hk] at hp
    exact Option.some.inj h ▸ hp
  next hk =>
    have hp := Handled.following (s := s) (.inl hk)
    rw [if_neg fun hx => (hc hx).2 hk] at hp
    exact Option.some.inj h ▸ hp
  next hk => exact handled_of_startTab? (.inl hk) h
  next hk => exact handled_of_startTab? (.inr hk) h
  next hk => exact Option.some.inj h ▸ .submit hk
  next hk =>
    split at h
    next hi =>
      simp only [Bool.and_eq_true, decide_eq_true_eq, List.isEmpty_iff] at hi
      exact Option.some.inj h ▸ .colon hk hi.1.1 hi.1.2 hi.2
    next => exact handled_of_edit? h
  next hk =>
    split at h
    next hi =>
      simp only [Bool.and_eq_true, decide_eq_true_eq, List.isEmpty_iff] at hi
      exact Option.some.inj h ▸ .backspace hk hi.1.1 hi.1.2 hi.2
    next => exact handled_of_edit? h
  next hk =>
    split at h
    next hm => exact Option.some.inj h ▸ .escape hk hm
    next => exact handled_of_edit? h
  next => exact handled_of_edit? h

/-- The session that a key finds once the offers and, but for an arrow with alt, the commands are
left. -/
def left (s : Session) (k : Key) : Session :=
  if isAltArrow k then s.commitTab else s.commitTab.commitBrowse

theorem handled_of_pressOutsideTab? (h : s.pressOutsideTab? k = some r) :
    Handled (if isAltArrow k then s else s.commitBrowse) k r := by
  unfold pressOutsideTab? at h
  dsimp only at h
  generalize (if isAltArrow k then s else s.commitBrowse) = s₁ at h
  split at h
  next r' hr =>
    obtain rfl := Option.some.inj h
    split at hr
    next hc => exact handled_of_control? hc hr
    next => cases hr
  next hn =>
    split at h
    next ha =>
      simp only [isAltArrow, Bool.and_eq_true, Bool.or_eq_true, decide_eq_true_eq] at ha
      split at h
      next hk => exact Option.some.inj h ▸ .previousCommand ha.1 hk
      next hk => exact Option.some.inj h ▸ .followingCommand ha.1 (ha.2.resolve_left hk)
    next =>
      refine handled_of_plain? (fun hc => ?_) h
      rw [if_pos hc, control?] at hn
      constructor
      all_goals
        intro hk
        simp [hk] at hn

/-- What a key does: it goes on with the offers or takes them back, or it leaves them first. -/
inductive Pressed (s : Session) (k : Key) : Session × List Request → Prop
  | cycle {s' : Session} (ht : s.tab.isSome) (hk : k.code = .tab ∨ k.code = .backTab)
      (h : Turned s s') : Pressed s k (s', [])
  | cancel (ht : s.tab.isSome) (hk : k.code = .escape) : Pressed s k (s.cancelTab, [])
  | handled {r : Session × List Request} (h : Handled (s.left k) k r) : Pressed s k r

theorem commitTab_of_none (h : s.tab = none) : s.commitTab = s := by rw [commitTab, h]

theorem commitBrowse_of_none (h : s.browse = none) : s.commitBrowse = s := by rw [commitBrowse, h]

theorem left_of_none (ht : s.tab = none) (hb : s.browse = none) : s.left k = s := by
  rw [left, commitTab_of_none ht, commitBrowse_of_none hb, ite_self]

theorem pressed_of_press? (h : s.press? k = some r) : Pressed s k r := by
  have hl (s₁ : Session) (he : s.commitTab = s₁) (h : s₁.pressOutsideTab? k = some r) :
      Pressed s k r := by
    subst he
    exact .handled (handled_of_pressOutsideTab? h)
  rw [press?] at h
  split at h
  next ht =>
    split at h
    next hk =>
      obtain ⟨s', hs, rfl⟩ := Option.map_eq_some_iff.1 h
      exact .cycle ht (.inl hk) (turned_of_cycle? hs)
    next hk =>
      obtain ⟨s', hs, rfl⟩ := Option.map_eq_some_iff.1 h
      exact .cycle ht (.inr hk) (turned_of_cycle? hs)
    next hk => exact Option.some.inj h ▸ .cancel ht hk
    next => exact hl _ rfl h
  next ht => exact hl _ (commitTab_of_none (by simpa using ht)) h

/-- A key that does not go on with the offers leaves them first. -/
theorem press?_left (ha : isAltArrow k = false)
    (ht : s.tab.isSome → k.code ≠ .tab ∧ k.code ≠ .backTab ∧ k.code ≠ .escape) :
    s.press? k = (if k.ctrl then (s.left k).control? k else none).or ((s.left k).plain? k) := by
  have ho (s₁ : Session) : s₁.pressOutsideTab? k =
      (if k.ctrl then s₁.commitBrowse.control? k else none).or (s₁.commitBrowse.plain? k) := by
    unfold pressOutsideTab?
    simp only [ha, Bool.false_eq_true, if_false]
    cases (if k.ctrl = true then s₁.commitBrowse.control? k else none) with
    | none => rfl
    | some r => rfl
  rw [left, ha, if_neg Bool.false_ne_true, ← ho, press?]
  split
  next hs =>
    obtain ⟨h1, h2, h3⟩ := ht hs
    split
    next hk => exact absurd hk h1
    next hk => exact absurd hk h2
    next hk => exact absurd hk h3
    next => rfl
  next hs => rw [commitTab_of_none (by simpa using hs)]

end Tether.Session
