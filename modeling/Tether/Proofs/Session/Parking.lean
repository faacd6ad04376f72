import Tether.Proofs.Session.CommandBrowse

/-! The input that is put aside when a mode is left, until the mode is taken up again:
`snapshot_of_leaving`. -/
namespace Tether

theorem Mode.eq_of_ne {a b m : Mode} (ha : a ≠ m) (hb : b ≠ m) : a = b := by
  cases a <;> cases b <;> cases m <;> simp_all

theorem Mode.toggled_ne (m : Mode) : m.toggled ≠ m := by cases m <;> simp [Mode.toggled]

namespace Session
open Text

section Parked
variable (s : Session) (m : Mode)

theorem parked_refresh (confirm : Bool) : (s.refresh confirm).parked m = s.parked m := by
  rw [refresh]
  dsimp only
  split
  · rfl
  · rfl

theorem input_refresh : (s.refresh false).input = s.input := rfl

theorem parked_park_self (p : Snapshot) : (s.park m p).parked m = p := by
  cases m with
  | eval => rfl
  | command => rfl

theorem parked_park_of_ne {m' : Mode} (h : m' ≠ m) (p : Snapshot) :
    (s.park m' p).parked m = s.parked m := by
  cases m <;> cases m' <;> first | rfl | exact absurd rfl h

theorem mode_switchMode : (s.switchMode m).mode = m := by
  rw [switchMode]
  split
  next h => exact h.symm
  next => exact (frame_refresh _ false).mode

theorem parked_switchMode (h : m ≠ s.mode) :
    (s.switchMode m).parked s.mode = s.input.snapshot := by
  rw [switchMode, if_neg h, parked_refresh]
  exact (parked_park_of_ne _ _ h _).trans (parked_park_self _ _ _)

theorem snapshot_switchMode {m : Mode} (h : s.mode ≠ m)
    (hp : isPosition (s.parked m).text (s.parked m).cursor) :
    (s.switchMode m).input.snapshot = s.parked m := by
  rw [switchMode, if_neg h.symm, input_refresh]
  exact Input.snapshot_restore hp _

theorem live_switchMode (h : m ≠ s.mode) : (s.switchMode m).live = none := by
  rw [switchMode, if_neg h]
  exact (frame_refresh _ false).live

end Parked

/-- The input put aside for a mode, while nothing that is gone through leads back to the mode. -/
structure Holds (s : Session) (m : Mode) (p : Snapshot) : Prop where
  parked : s.parked m = p
  live : ∀ l ∈ s.live, l.1 ≠ m
  browse : ∀ b ∈ s.browse, b.mode ≠ m

section Holds
variable {s s' : Session} {m : Mode} {p : Snapshot} (h : s.Holds m p)
include h

theorem Holds.refresh (confirm : Bool) : (s.refresh confirm).Holds m p := by
  refine ⟨(parked_refresh s m confirm).trans h.parked, ?_, ?_⟩
  · rw [(frame_refresh s confirm).live]
    exact h.live
  · rw [browse_refresh]
    exact h.browse

theorem Holds.stopBrowsing : s.stopBrowsing.Holds m p := ⟨h.parked, nofun, h.browse⟩

theorem Holds.showLine (line : String) : (s.showLine line).Holds m p := by
  refine Holds.refresh ?_ false
  exact ⟨h.parked, h.live, h.browse⟩

theorem Holds.showEntry (i : Nat) (follow : Bool) : (s.showEntry i follow).Holds m p := by
  rw [Session.showEntry]
  split
  · exact h
  · refine Holds.showLine ?_ _
    exact ⟨h.parked, h.live, h.browse⟩

theorem Holds.previous (hm : s.mode ≠ m) (filter : Option Mode) :
    (s.previous filter).Holds m p := by
  rw [Session.previous]
  split
  · exact h
  · refine Holds.showEntry ?_ _ _
    refine ⟨h.parked, ?_, h.browse⟩
    rintro l ⟨⟩
    cases hl : s.live with
    | none => exact hm
    | some l => exact h.live l hl

theorem Holds.following (filter : Option Mode) : (s.following filter).Holds m p := by
  rw [Session.following]
  split
  · exact h
  · split
    · exact h.showEntry _ _
    · refine Holds.refresh ?_ false
      split
      · exact ⟨h.parked, h.live, h.browse⟩
      · exact ⟨h.parked, by simp, h.browse⟩

theorem Holds.showCommand (i : Nat) : (s.showCommand i).Holds m p := by
  rw [Session.showCommand]
  split
  · exact h
  · refine Holds.showLine ?_ _
    exact ⟨h.parked, h.live, h.browse⟩

theorem Holds.browsing (b : CommandBrowse) (hb : b.mode ≠ m) :
    { s with browse := some b }.Holds m p := by
  refine ⟨h.parked, h.live, ?_⟩
  rintro b' ⟨⟩
  exact hb

theorem Holds.previousCommand (hm : s.mode ≠ m) : s.previousCommand.Holds m p := by
  unfold Session.previousCommand
  dsimp only
  split
  · exact h
  next i _ =>
    split
    next b hb => exact (h.browsing { b with index := i } (h.browse b hb)).showCommand i
    next => exact (h.browsing ⟨s.mode, s.input.snapshot, i⟩ hm).stopBrowsing.showCommand i

theorem Holds.followingCommand : s.followingCommand.Holds m p := by
  rw [Session.followingCommand]
  split
  · exact h
  next b hb =>
    split
    next i _ => exact (h.browsing { b with index := i } (h.browse b hb)).showCommand i
    next =>
      refine Holds.refresh ?_ false
      exact ⟨h.parked, h.live, by simp⟩

theorem Holds.park {m' : Mode} (hm : m' ≠ m) (p' : Snapshot) : (s.park m' p').Holds m p := by
  refine ⟨(parked_park_of_ne s m hm p').trans h.parked, ?_, by rw [browse_park]; exact h.browse⟩
  cases m' with
  | eval => exact h.live
  | command => exact h.live

theorem Holds.commitBrowse : s.commitBrowse.Holds m p := by
  rw [Session.commitBrowse]
  split
  · exact h
  next b hb =>
    have hn : { s with browse := none }.Holds m p := ⟨h.parked, h.live, by simp⟩
    dsimp only
    split
    · exact hn
    · exact hn.park (h.browse b hb) b.before

theorem Holds.commitTab : s.commitTab.Holds m p := by
  rw [Session.commitTab]
  split
  · exact h
  · refine Holds.refresh ?_ false
    exact ⟨h.parked, h.live, h.browse⟩

theorem Holds.cancelTab : s.cancelTab.Holds m p := by
  rw [Session.cancelTab]
  split
  · exact h
  · refine Holds.refresh ?_ false
    exact ⟨h.parked, h.live, h.browse⟩

theorem Holds.left (k : Key) : (s.left k).Holds m p := by
  rw [Session.left]
  split
  · exact h.commitTab
  · exact h.commitTab.commitBrowse

theorem Holds.interrupt : s.interrupt.1.Holds m p := by
  rw [Session.interrupt]
  split
  · exact h
  · refine Holds.refresh (Holds.stopBrowsing ?_) false
    exact ⟨h.parked, h.live, h.browse⟩

theorem holds_of_turned (ht : Turned s s') : s'.Holds m p := by
  cases ht with
  | still => exact h
  | shown => exact ⟨h.parked, h.live, h.browse⟩

theorem holds_of_edited {k : Key} (he : Edited s k s') : s'.Holds m p := by
  have hi (input : Input) : { s with input := input }.Holds m p := ⟨h.parked, h.live, h.browse⟩
  induction he with
  | still => exact hi _
  | moved => exact (hi _).refresh false
  | inserted => exact (hi _).stopBrowsing.refresh true
  | deleted => exact (hi _).stopBrowsing.refresh false
  | quiet _ ih => exact ⟨ih.parked, ih.live, ih.browse⟩

theorem Holds.switchMode (hm : s.mode ≠ m) {m' : Mode} (hn : (s.switchMode m').mode ≠ m) :
    (s.switchMode m').Holds m p := by
  rw [mode_switchMode] at hn
  rw [Mode.eq_of_ne hn hm, switchMode_self]
  exact h

end Holds

section Submit
variable (s : Session) (line : String)

def asked (line : String) : List Request :=
  if line = "quit" then [.quit] else if line = "edit" then [.edit] else []

theorem obey_eq :
    ∃ t, s.obey line = ({ s with transcript := t }.switchMode .eval, asked line) := by
  unfold obey
  dsimp only
  split
  next => exact ⟨_, rfl⟩
  next => exact ⟨_, rfl⟩
  next => exact ⟨_, rfl⟩
  next => exact ⟨_, rfl⟩
  next => exact ⟨s.transcript, rfl⟩
  next _ _ he _ hq =>
    rw [asked, if_neg hq, if_neg he]
    exact ⟨_, rfl⟩

theorem runLine_eval (hm : s.mode = .eval) : ∃ history t,
    s.runLine line = ({ s with history := history, transcript := t }, []) := by
  rw [runLine]
  generalize s.history.write line s.mode = w
  obtain ⟨history, error⟩ := w
  -- the branch is taken once the mode is a field that is known
  cases s
  cases hm
  cases error
  · exact ⟨history, _, rfl⟩
  · exact ⟨history, _, rfl⟩

theorem runLine_command (hm : s.mode = .command) : ∃ history t t',
    s.runLine line =
      ({ ({ s with history := history, transcript := t }.switchMode .eval) with transcript := t' },
        asked line) := by
  rw [runLine]
  generalize s.history.write line s.mode = w
  obtain ⟨history, error⟩ := w
  obtain ⟨t, ho⟩ := obey_eq { s with history := history } line
  refine ⟨history, t, ?_⟩
  cases s
  cases hm
  dsimp only at ho ⊢
  rw [ho]
  cases error
  · exact ⟨_, rfl⟩
  · exact ⟨_, rfl⟩

theorem submit_blank (h : s.mode = .eval ∨ (trimString s.input.string).isEmpty) :
    ∃ history t, s.submit = ({ s with
      input := s.input.clear, live := none, history := history, transcript := t
      index := history.length }.refresh false, []) := by
  rw [submit]
  dsimp only
  split
  · exact ⟨s.history, s.transcript, rfl⟩
  next hn =>
    have hm : s.mode = .eval := h.resolve_right hn
    obtain ⟨history, t, hr⟩ := runLine_eval { s with input := s.input.clear, live := none }
      (trimString s.input.string) hm
    refine ⟨history, t, ?_⟩
    rw [hr]

theorem submit_command (hm : s.mode = .command) (hn : ¬ (trimString s.input.string).isEmpty) :
    ∃ history t t' index, s.submit =
      ({ ({ s with
          input := s.input.clear, live := none, history := history
          transcript := t }.switchMode .eval) with transcript := t', index := index }.refresh false,
        asked (trimString s.input.string)) := by
  rw [submit]
  dsimp only
  rw [if_neg hn]
  obtain ⟨history, t, t', hr⟩ := runLine_command { s with input := s.input.clear, live := none }
    (trimString s.input.string) hm
  refine ⟨history, t, t', ?_⟩
  rw [hr]
  dsimp only
  exact ⟨_, rfl⟩

theorem mode_submit_blank (h : s.mode = .eval ∨ (trimString s.input.string).isEmpty) :
    s.submit.1.mode = s.mode := by
  obtain ⟨history, t, he⟩ := submit_blank s h
  rw [he]
  exact (frame_refresh _ false).mode

theorem mode_submit_command (hm : s.mode = .command) (hn : ¬ (trimString s.input.string).isEmpty) :
    s.submit.1.mode = .eval := by
  obtain ⟨history, t, t', index, he⟩ := submit_command s hm hn
  rw [he]
  exact (frame_refresh _ false).mode.trans (mode_switchMode _ _)

theorem snapshot_submit (hm : s.mode = .command) (hn : ¬ (trimString s.input.string).isEmpty)
    (hp : isPosition (s.parked .eval).text (s.parked .eval).cursor) :
    s.submit.1.input.snapshot = s.parked .eval := by
  obtain ⟨history, t, t', index, he⟩ := submit_command s hm hn
  rw [he, input_refresh]
  refine snapshot_switchMode _ ?_ hp
  change s.mode ≠ .eval
  rw [hm]
  exact nofun

end Submit

section Mode
variable (s : Session)

theorem mode_input_left (k : Key) :
    (s.left k).mode = s.mode ∧ (s.left k).input = s.input := by
  have ht : s.commitTab.mode = s.mode ∧ s.commitTab.input = s.input := by
    rw [commitTab]
    split
    · exact ⟨rfl, rfl⟩
    · exact ⟨(frame_refresh _ false).mode, rfl⟩
  rw [left, ← ht.1, ← ht.2]
  generalize s.commitTab = s₁
  split
  · exact ⟨rfl, rfl⟩
  · rw [commitBrowse]
    split
    · exact ⟨rfl, rfl⟩
    next b _ =>
      dsimp only
      split
      · exact ⟨rfl, rfl⟩
      · cases b.mode with
        | eval => exact ⟨rfl, rfl⟩
        | command => exact ⟨rfl, rfl⟩

theorem mode_left (k : Key) : (s.left k).mode = s.mode := (mode_input_left s k).1

theorem mode_cancelTab : s.cancelTab.mode = s.mode := by
  rw [cancelTab]
  split
  · rfl
  · exact (frame_refresh _ false).mode

theorem mode_of_edited {s s' : Session} {k : Key} (h : Edited s k s') : s'.mode = s.mode := by
  induction h with
  | still => rfl
  | moved => exact (frame_refresh _ false).mode
  | inserted => exact (frame_refresh _ true).mode
  | deleted => exact (frame_refresh _ false).mode
  | quiet _ ih => exact ih

end Mode

section Press
variable {s : Session} {m : Mode} {p : Snapshot} {k : Key} {r : Session × List Request}

theorem Holds.submit (h : s.Holds m p) (hm : s.mode ≠ m) (hn : s.submit.1.mode ≠ m) :
    s.submit.1.Holds m p := by
  by_cases hb : s.mode = .eval ∨ (trimString s.input.string).isEmpty
  · obtain ⟨history, t, he⟩ := submit_blank s hb
    rw [he]
    refine Holds.refresh ?_ false
    exact ⟨h.parked, nofun, h.browse⟩
  · -- a command leads out of its mode, and there is no mode but `m` to lead to
    obtain ⟨hc, hl⟩ := not_or.1 hb
    have he := mode_submit_command s (Mode.eq_of_ne hc (b := .command) nofun) hl
    exact absurd ((Mode.eq_of_ne hm hn).trans he) hc

theorem holds_of_handled (h : s.Holds m p) (hm : s.mode ≠ m) (hr : Handled s k r)
    (hn : r.1.mode ≠ m) : r.1.Holds m p := by
  cases hr with
  | interrupt => exact h.interrupt
  | quit => exact h
  | clear => exact ⟨h.parked, h.live, h.browse⟩
  | toggle => exact h.switchMode hm hn
  | previous => exact h.previous hm _
  | following => exact h.following _
  | previousCommand => exact h.previousCommand hm
  | followingCommand => exact h.followingCommand
  | startTab _ ht => exact holds_of_turned h ht
  | submit => exact h.submit hm hn
  | colon => exact h.switchMode hm hn
  | backspace => exact h.switchMode hm hn
  | escape => exact h.switchMode hm hn
  | edit he => exact holds_of_edited h he

theorem holds_press? (h : s.Holds m p) (hm : s.mode ≠ m) (hp : s.press? k = some r)
    (hn : r.1.mode ≠ m) : r.1.Holds m p := by
  cases pressed_of_press? hp with
  | cycle _ _ hc => exact holds_of_turned h hc
  | cancel => exact h.cancelTab
  | handled hr => exact holds_of_handled (h.left k) (by rwa [mode_left]) hr hn

/-- The keys that can lead out of a mode: `t` with control, and those that leave the commands. -/
def isLeavingKey (k : Key) : Bool :=
  k.ctrl && k.code = .char 't' || k.code = .escape || k.code = .backspace || k.code = .enter

theorem code_of_isLeavingKey (hk : isLeavingKey k) :
    k.code ∈ [.char 't', .escape, .backspace, .enter] := by
  simp only [isLeavingKey, Bool.or_eq_true, Bool.and_eq_true, decide_eq_true_eq] at hk
  simp only [List.mem_cons, List.not_mem_nil, or_false]
  tauto

theorem code_ne_of_isLeavingKey (hk : isLeavingKey k) {c : KeyCode}
    (hc : c ∉ [.char 't', .escape, .backspace, .enter]) : k.code ≠ c := by
  rintro rfl
  exact hc (code_of_isLeavingKey hk)

/-- The key leads to the other mode: `t` with control does, and from commands the escape key, the
backspace key where nothing is left to delete, and the enter key with a line. -/
def Leaves (s : Session) (k : Key) : Prop :=
  k.ctrl ∧ k.code = .char 't' ∨
    s.mode = .command ∧ (k.code = .escape ∧ s.tab = none ∨
      k.code = .backspace ∧ k.isPlain ∧ s.input.value = [] ∨
      k.code = .enter ∧ ¬ (trimString s.input.string).isEmpty)

theorem press?_toggle (hc : k.ctrl) (hk : k.code = .char 't') :
    s.press? k = some ((s.left k).switchMode (s.left k).mode.toggled, []) := by
  rw [press?_left (by simp [isAltArrow, hk]) (by simp [hk]), if_pos hc]
  simp [control?, hk]

/-- With control or without, the keys that leave the commands are not taken for others. -/
theorem press?_plain (hk : k.code = .escape ∧ s.tab = none ∨ k.code = .backspace ∨ k.code = .enter) :
    s.press? k = (s.left k).plain? k := by
  have ha : isAltArrow k = false := by
    rcases hk with ⟨hk, -⟩ | hk | hk
    all_goals simp [isAltArrow, hk]
  have hc : (if k.ctrl then (s.left k).control? k else none) = none := by
    rcases hk with ⟨hk, -⟩ | hk | hk
    all_goals simp [control?, hk]
  have ht : s.tab.isSome → k.code ≠ .tab ∧ k.code ≠ .backTab ∧ k.code ≠ .escape := by
    intro ht
    rcases hk with ⟨-, hn⟩ | hk | hk
    · rw [hn] at ht
      cases ht
    all_goals simp [hk]
  rw [press?_left ha ht, hc, Option.none_or]

theorem Leaves.press? (h : s.Leaves k) : ∃ r, s.press? k = some r ∧ r.1.mode ≠ s.mode := by
  obtain ⟨hm, hi⟩ := mode_input_left s k
  rcases h with ⟨hc, hk⟩ | ⟨hs, h⟩
  · refine ⟨_, press?_toggle hc hk, ?_⟩
    rw [mode_switchMode, hm]
    exact s.mode.toggled_ne
  · suffices hp : ∃ r, s.press? k = some r ∧ r.1.mode = .eval by
      obtain ⟨r, hp, hr⟩ := hp
      exact ⟨r, hp, by rw [hr, hs]; decide⟩
    rcases h with ⟨hk, ht⟩ | ⟨hk, hp, hv⟩ | ⟨hk, hl⟩
    · refine ⟨((s.left k).switchMode .eval, []), ?_, mode_switchMode _ _⟩
      rw [press?_plain (.inl ⟨hk, ht⟩)]
      simp [plain?, hk, hm, hs]
    · refine ⟨((s.left k).switchMode .eval, []), ?_, mode_switchMode _ _⟩
      rw [press?_plain (.inr (.inl hk))]
      simp [plain?, hk, hm, hs, hi, hp, hv]
    · refine ⟨(s.left k).submit, ?_, mode_submit_command _ (hm.trans hs) (by rwa [hi])⟩
      rw [press?_plain (.inr (.inr hk))]
      simp [plain?, hk]

theorem snapshot_of_handled (h : s.Holds m p) (hp : isPosition p.text p.cursor) (hm : s.mode ≠ m)
    (hk : isLeavingKey k) (hr : Handled s k r) (hn : r.1.mode = m) : r.1.input.snapshot = p := by
  obtain rfl := h.parked
  have hs (m' : Mode) (hn : (s.switchMode m').mode = m) :
      (s.switchMode m').input.snapshot = s.parked m := by
    rw [mode_switchMode] at hn
    rw [hn]
    exact snapshot_switchMode s hm hp
  have hx {c : KeyCode} (hc : c ∉ [.char 't', .escape, .backspace, .enter]) : k.code ≠ c :=
    code_ne_of_isLeavingKey hk hc
  cases hr with
  | toggle => exact hs _ hn
  | colon => exact hs _ hn
  | backspace => exact hs _ hn
  | escape => exact hs _ hn
  | edit he => exact absurd ((mode_of_edited he).symm.trans hn) hm
  | quit => exact absurd hn hm
  | clear => exact absurd hn hm
  | submit =>
    by_cases hb : s.mode = .eval ∨ (trimString s.input.string).isEmpty
    · exact absurd ((mode_submit_blank s hb).symm.trans hn) hm
    · obtain ⟨hc, hl⟩ := not_or.1 hb
      have hc : s.mode = .command := Mode.eq_of_ne hc (b := .command) nofun
      obtain rfl : .eval = m := (mode_submit_command s hc hl).symm.trans hn
      exact snapshot_submit s hc hl hp
  | interrupt _ hk => exact absurd hk (hx (by decide))
  | previous hk => exact absurd hk (not_or.2 ⟨hx (by decide), fun hk => hx (by decide) hk.2⟩)
  | following hk => exact absurd hk (not_or.2 ⟨hx (by decide), fun hk => hx (by decide) hk.2⟩)
  | previousCommand _ hk => exact absurd hk (hx (by decide))
  | followingCommand _ hk => exact absurd hk (hx (by decide))
  | startTab hk => exact absurd hk (not_or.2 ⟨hx (by decide), hx (by decide)⟩)

theorem snapshot_of_press? (h : s.Holds m p) (hp : isPosition p.text p.cursor) (hm : s.mode ≠ m)
    (hk : isLeavingKey k) (hr : s.press? k = some r) (hn : r.1.mode = m) :
    r.1.input.snapshot = p := by
  cases pressed_of_press? hr with
  | cycle _ hc =>
    exact absurd hc (not_or.2
      ⟨code_ne_of_isLeavingKey hk (by decide), code_ne_of_isLeavingKey hk (by decide)⟩)
  | cancel => exact absurd ((mode_cancelTab s).symm.trans hn) hm
  | handled hr => exact snapshot_of_handled (h.left k) hp (by rwa [mode_left]) hk hr hn

end Press

/-- The sessions that keys and changes of the width make of a first one while a mode is left. -/
inductive Outside (m : Mode) (s₀ : Session) : Session → Prop
  | start (hm : s₀.mode ≠ m) : Outside m s₀ s₀
  | key {s s' : Session} {requests : List Request} {k : Key} (h : Outside m s₀ s)
      (hu : s.update? (.key k) = some (s', requests)) (hm : s'.mode ≠ m) : Outside m s₀ s'
  | resize {s s' : Session} {requests : List Request} {width : Nat} (h : Outside m s₀ s)
      (hu : s.update? (.resize width) = some (s', requests)) : Outside m s₀ s'

theorem holds_of_outside {m : Mode} {p : Snapshot} {s₀ s : Session} (h₀ : s₀.Holds m p)
    (h : Outside m s₀ s) : s.mode ≠ m ∧ s.Holds m p := by
  induction h with
  | start hm => exact ⟨hm, h₀⟩
  | key _ hu hm ih => exact ⟨hm, holds_press? ih.2 ih.1 hu hm⟩
  | resize _ hu ih =>
    cases hu
    exact ⟨ih.1, ih.2.parked, ih.2.live, ih.2.browse⟩

/-- The input put aside for a mode is there again when a key leads back to the mode, whatever was
done in the other one. -/
theorem snapshot_of_leaving {d : Document} {h : History} {name : String} {width : Nat}
    {matcher : Complete.Matcher} {s : Session} {requests : List Request}
    (hr : Reached (initial d h name width matcher) s requests) (ht : s.tab = none)
    (hb : s.browse = none) {k : Key} (hc : k.ctrl) (hk : k.code = .char 't') :
    ∃ s₁, s.press? k = some (s₁, []) ∧ s₁.mode ≠ s.mode ∧ s₁.parked s.mode = s.input.snapshot ∧
      ∀ s₂, Outside s.mode s₁ s₂ → ∀ k₂,
        (s₂.Leaves k₂ → ∃ r, s₂.press? k₂ = some r ∧ r.1.mode = s.mode) ∧
        ∀ r, isLeavingKey k₂ → s₂.press? k₂ = some r → r.1.mode = s.mode →
          r.1.input.value = s.input.value ∧ r.1.input.cursor = s.input.cursor := by
  have hp := hr.sound.cursor
  have hm := s.mode.toggled_ne
  have h₁ : (s.switchMode s.mode.toggled).Holds s.mode s.input.snapshot := by
    refine ⟨parked_switchMode s _ hm, ?_, ?_⟩
    · rw [live_switchMode s _ hm]
      exact nofun
    · rw [browse_switchMode, hb]
      exact nofun
  have hk₁ : s.press? k = some (s.switchMode s.mode.toggled, []) := by
    rw [press?_toggle hc hk, left_of_none ht hb]
  refine ⟨_, hk₁, by rwa [mode_switchMode], h₁.parked, fun s₂ ho k₂ => ?_⟩
  obtain ⟨hm₂, h₂⟩ := holds_of_outside h₁ ho
  refine ⟨fun hl => ?_, fun r hk₂ hr₂ hn => ?_⟩
  · -- the mode that the key leads to is not that of `s₂`, and neither is the first one
    obtain ⟨r, hr₂, hn⟩ := hl.press?
    exact ⟨r, hr₂, Mode.eq_of_ne hn hm₂.symm⟩
  · have hs := snapshot_of_press? h₂ hp hm₂ hk₂ hr₂ hn
    exact ⟨congrArg Snapshot.text hs, congrArg Snapshot.cursor hs⟩

/-- An expression put aside while a command of the history is run again. -/
theorem snapshot_of_leaving_enter : ∃ s s₁ s₂ r,
    Leads (new ⟨[]⟩ ⟨[⟨.command, "list"⟩], none⟩ "t" 80)
      [.char '1', ⟨.left, false, false, false⟩] s ∧
    s.press? ⟨.char 't', true, false, false⟩ = some (s₁, []) ∧
    s₁.press? ⟨.up, true, false, false⟩ = some (s₂, []) ∧ s₂.input.value = "list".toList ∧
    { s₂ with width := 40 }.press? ⟨.enter, false, false, false⟩ = some r ∧
    r.1.mode = .eval ∧ r.1.input.value = ['1'] ∧ r.1.input.cursor = 0 := by
  have hk : ((new ⟨[]⟩ ⟨[⟨.command, "list"⟩], none⟩ "t" 80).run?
      ([.char '1', ⟨.left, false, false, false⟩].map .key)).map
      (fun r => (r.1.tab.isNone && r.1.browse.isNone, r.1.mode, r.1.input.value,
        r.1.input.cursor)) = some (true, .eval, ['1'], 0) := by
    decide +kernel
  have he : (((new ⟨[]⟩ ⟨[⟨.command, "list"⟩], none⟩ "t" 80).run?
      ([.char '1', ⟨.left, false, false, false⟩].map .key)).bind fun r =>
        (r.1.press? ⟨.char 't', true, false, false⟩).bind fun r =>
          r.1.press? ⟨.up, true, false, false⟩).map
      (fun r => (r.1.mode, r.1.input.value, r.2)) = some (.command, "list".toList, []) := by
    decide +kernel
  obtain ⟨⟨s, all⟩, hr, hs⟩ := Option.map_eq_some_iff.1 hk
  simp only [Prod.mk.injEq, Bool.and_eq_true, Option.isNone_iff_eq_none] at hs
  obtain ⟨⟨ht, hb⟩, hm, hv, hc⟩ := hs
  obtain ⟨last, hd⟩ := Reached.start.run hr
  obtain ⟨s₁, hp₁, hm₁, -, hl⟩ :=
    snapshot_of_leaving (k := ⟨.char 't', true, false, false⟩) hd ht hb rfl rfl
  rw [hr, Option.bind_some, hp₁, Option.bind_some] at he
  obtain ⟨⟨s₂, requests⟩, hp₂, hs₂⟩ := Option.map_eq_some_iff.1 he
  simp only [Prod.mk.injEq] at hs₂
  obtain ⟨hm₂, hv₂, rfl⟩ := hs₂
  have ho : Outside s.mode s₁ { s₂ with width := 40 } := by
    refine .resize (.key (.start hm₁) hp₂ ?_) rfl
    rw [hm₂, hm]
    exact nofun
  have hx : { s₂ with width := 40 }.Leaves ⟨.enter, false, false, false⟩ := by
    refine .inr ⟨hm₂, .inr (.inr ⟨rfl, ?_⟩)⟩
    change ¬ (trimString (String.ofList s₂.input.value)).isEmpty = true
    rw [hv₂]
    decide
  obtain ⟨r, hp, hn⟩ := (hl _ ho _).1 hx
  obtain ⟨hv', hc'⟩ := (hl _ ho _).2 r rfl hp hn
  exact ⟨s, s₁, s₂, r, ⟨all, hr⟩, hp₁, hp₂, hv₂, hp, hn.trans hm, hv'.trans hv, hc'.trans hc⟩

end Session

end Tether
