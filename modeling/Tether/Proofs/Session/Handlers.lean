import Tether.Proofs.History.Log
import Tether.Proofs.Session.Press
import Tether.Proofs.Session.Refresh

/-! Every handler of a key leaves a sound session behind: `kept_press?`. -/
namespace Tether.Session
open Complete Text

/-- What holds of a session and the requests made on the way to it. -/
structure Kept (s : Session) (requests : List Request) : Prop where
  sound : s.Sound
  edit : .edit ∈ requests → s.tab = none

theorem Settled.kept {s : Session} (h : s.Settled) (requests : List Request) : Kept s requests :=
  ⟨h.sound, fun _ => h.tab⟩

theorem Sound.kept {s : Session} (h : s.Sound) : Kept s [] := ⟨h, nofun⟩

theorem Sound.settled {s : Session} (h : s.Sound) (ht : s.tab = none) : s.Settled := ⟨h, ht⟩

section Ready
variable {s : Session} (h : s.Ready)
include h

theorem settled_stopBrowsing_refresh (confirm : Bool) :
    (s.stopBrowsing.refresh confirm).Settled := by
  have hr : s.stopBrowsing.Ready := ⟨h.signatures, h.cursor, h.tab⟩
  exact settled_refresh hr (browsing_stopBrowsing s) confirm

theorem settled_showLine (hb : s.Browsing) (line : String) : (s.showLine line).Settled := by
  rw [showLine]
  have hi : { s with input := s.input.setEnd line.toList }.Ready :=
    ⟨h.signatures, Input.isPosition_set s.input line.toList _, h.tab⟩
  exact settled_refresh hi ⟨hb.index, hb.live⟩ false

theorem settled_showEntry {i : Nat} (hi : i < s.history.length) (hl : s.live.isSome) (follow : Bool) :
    (s.showEntry i follow).Settled := by
  obtain ⟨e, he⟩ := History.get_of_lt hi
  rw [showEntry]
  rw [he]
  have hb : { s with mode := if follow then e.mode else s.mode, index := i }.Browsing :=
    ⟨Nat.le_of_lt hi, by simp [hi, hl]⟩
  have hr : { s with mode := if follow then e.mode else s.mode, index := i }.Ready :=
    ⟨h.signatures, h.cursor, h.tab⟩
  exact settled_showLine hr hb e.line

end Ready

theorem bare_park (s : Session) (mode : Mode) (p : Snapshot) : (s.park mode p).bare = s.bare := by
  cases mode with
  | eval => rfl
  | command => rfl

theorem bare_say (s : Session) (e : TranscriptEntry) : (s.say e).bare = s.bare := rfl

theorem bare_evaluate (s : Session) (line : String) : (s.evaluate line).bare = s.bare := bare_say s _

theorem ready_bare {s : Session} : s.bare.Ready ↔ s.Ready :=
  ⟨fun h => ⟨h.signatures, h.cursor, h.tab⟩, fun h => ⟨h.signatures, h.cursor, h.tab⟩⟩

theorem Ready.of_bare {s s' : Session} (h : s.Ready) (he : s'.bare = s.bare) : s'.Ready := by
  rw [← ready_bare, he, ready_bare]
  exact h

theorem switchMode_self (s : Session) : s.switchMode s.mode = s := if_pos rfl

theorem settled_switchMode {s : Session} (h : s.Ready) {mode : Mode} (hm : mode ≠ s.mode) :
    (s.switchMode mode).Settled := by
  rw [switchMode, if_neg hm]
  have hp : ((s.park s.mode s.input.snapshot).park mode .empty).bare = s.bare := by
    rw [bare_park, bare_park]
  have hr := h.of_bare hp
  generalize (s.park s.mode s.input.snapshot).park mode .empty = s' at hr
  have hi : { s' with mode := mode, input := s'.input.restore (s.parked mode) }.Ready :=
    ⟨hr.signatures, Input.isPosition_set s'.input _ _, hr.tab⟩
  exact settled_stopBrowsing_refresh hi false

theorem Settled.switchMode {s : Session} (h : s.Settled) (mode : Mode) :
    (s.switchMode mode).Settled := by
  by_cases hm : mode = s.mode
  · rw [hm, switchMode_self]
    exact h
  · exact settled_switchMode h.ready hm

/-- A session about to take a line, with no input of its own put aside. -/
structure Blank (s : Session) : Prop where
  ready : s.Ready
  live : s.live = none

theorem Blank.of_bare {s s' : Session} (h : s.Blank) (he : s'.bare = s.bare) : s'.Blank :=
  ⟨h.ready.of_bare he, (congrArg Session.live he).trans h.live⟩

theorem Blank.switchMode {s : Session} (h : s.Blank) (mode : Mode) : (s.switchMode mode).Blank := by
  by_cases hm : mode = s.mode
  · rw [hm, switchMode_self]
    exact h
  · refine ⟨(settled_switchMode h.ready hm).ready, ?_⟩
    rw [Session.switchMode, if_neg hm]
    exact (frame_refresh _ false).live

theorem Blank.obey {s : Session} (h : s.Blank) (line : String) : (s.obey line).1.Blank := by
  have hs (s' : Session) (he : s'.bare = s.bare) : (s'.switchMode .eval).Blank :=
    (h.of_bare he).switchMode .eval
  unfold Session.obey
  dsimp only
  split
  all_goals exact hs _ rfl

theorem Blank.runLine {s : Session} (h : s.Blank) (line : String) : (s.runLine line).1.Blank := by
  have hw (history : History) : { s with history := history }.Blank :=
    ⟨⟨h.ready.signatures, h.ready.cursor, h.ready.tab⟩, h.live⟩
  rw [Session.runLine]
  generalize s.history.write line s.mode = w
  obtain ⟨history, error⟩ := w
  dsimp only
  split
  next =>
    split
    · exact (hw history).of_bare (bare_evaluate _ line)
    · exact (hw history).obey line
  next =>
    split
    · exact ((hw history).of_bare (bare_evaluate _ line)).of_bare (bare_say _ _)
    · exact ((hw history).obey line).of_bare (bare_say _ _)

theorem settled_submit {s : Session} (h : s.Ready) : s.submit.1.Settled := by
  have hc : { s with input := s.input.clear, live := none }.Blank :=
    ⟨⟨h.signatures, Input.isPosition_clear s.input, h.tab⟩, rfl⟩
  have hf (s' : Session) (hs : s'.Blank) :
      ({ s' with index := s'.history.length }.refresh false).Settled := by
    have hr : { s' with index := s'.history.length }.Ready :=
      ⟨hs.ready.signatures, hs.ready.cursor, hs.ready.tab⟩
    have hb : { s' with index := s'.history.length }.Browsing :=
      ⟨Nat.le_refl _, by simp [hs.live]⟩
    exact settled_refresh hr hb false
  rw [submit]
  dsimp only
  split
  · exact hf _ hc
  · exact hf _ (hc.runLine _)

section Settled
variable {s : Session} (h : s.Settled)
include h

theorem settled_interrupt : s.interrupt.1.Settled := by
  rw [interrupt]
  split
  · exact h
  · have hr : { s with input := s.input.clear }.Ready :=
      ⟨h.ready.signatures, Input.isPosition_clear s.input, h.tab⟩
    exact settled_stopBrowsing_refresh hr false

theorem settled_previous (filter : Option Mode) : (s.previous filter).Settled := by
  rw [previous]
  split
  · exact h
  next i hi =>
    have hlt := (History.of_prev? hi).2
    have hr : { s with live := some (s.live.getD (s.mode, s.input.snapshot)) }.Ready :=
      ⟨h.ready.signatures, h.ready.cursor, h.tab⟩
    exact settled_showEntry hr hlt rfl filter.isNone

theorem settled_following (filter : Option Mode) : (s.following filter).Settled := by
  rw [following]
  split
  · exact h
  next hi =>
    have hl : s.live.isSome := h.sound.browsing.live.2 (Nat.lt_of_not_le hi)
    split
    next i hn => exact settled_showEntry h.ready (History.of_next? hn).2 hl filter.isNone
    next =>
      dsimp only
      split
      next hn =>
        rw [hn] at hl
        cases hl
      next mode p hs =>
        have hr : { s with
            mode := mode, input := s.input.restore p, live := none, index := s.history.length }.Ready :=
          ⟨h.ready.signatures, Input.isPosition_set s.input _ _, h.tab⟩
        exact settled_refresh hr ⟨Nat.le_refl _, by simp⟩ false

theorem settled_showCommand (i : Nat) : (s.showCommand i).Settled := by
  rw [showCommand]
  split
  · exact h
  next e he =>
    have hr : { s with mode := .command }.Ready := ⟨h.ready.signatures, h.ready.cursor, h.tab⟩
    exact settled_showLine hr ⟨h.sound.browsing.index, h.sound.browsing.live⟩ e.line

theorem settled_previousCommand : s.previousCommand.Settled := by
  unfold previousCommand
  dsimp only
  split
  · exact h
  next i _ =>
    split
    next b _ =>
      have hs : { s with browse := some { b with index := i } }.Settled := h.of_bare rfl
      exact settled_showCommand hs i
    next =>
      have hs : { s with browse := some ⟨s.mode, s.input.snapshot, i⟩ }.stopBrowsing.Settled := by
        refine ⟨⟨h.ready.signatures, h.ready.cursor, h.sound.offered, browsing_stopBrowsing _, ?_,
          fun ht => ?_⟩, h.tab⟩
        · exact h.sound.selected
        · have hf := h.sound.fresh ht
          exact ⟨hf.word, hf.call, hf.offers⟩
      exact settled_showCommand hs i

theorem settled_followingCommand : s.followingCommand.Settled := by
  rw [followingCommand]
  split
  · exact h
  next b _ =>
    split
    next i _ =>
      have hs : { s with browse := some { b with index := i } }.Settled := h.of_bare rfl
      exact settled_showCommand hs i
    next =>
      have hr : { s with browse := none, mode := b.mode, input := s.input.restore b.before }.Ready :=
        ⟨h.ready.signatures, Input.isPosition_set s.input _ _, h.tab⟩
      exact settled_refresh hr ⟨h.sound.browsing.index, h.sound.browsing.live⟩ false

theorem settled_commitBrowse : s.commitBrowse.Settled := by
  rw [commitBrowse]
  split
  · exact h
  next b _ =>
    dsimp only
    split
    · exact h.of_bare rfl
    · exact h.of_bare (bare_park _ b.mode b.before)

theorem settled_withoutOffers : { s with offers := [] }.Settled := by
  refine ⟨⟨h.ready.signatures, h.ready.cursor, nofun, ?_, fun t ht => ?_, fun ht => ?_⟩, h.tab⟩
  · exact ⟨h.sound.browsing.index, h.sound.browsing.live⟩
  · rw [show s.tab = none from h.tab] at ht
    cases ht
  · have hf := h.sound.fresh ht
    exact ⟨hf.word, hf.call, .inl rfl⟩

theorem settled_of_edited {s' : Session} {k : Key} (he : Edited s k s') : s'.Settled := by
  have hr {input : Input} {change : Change} {action : Option Line.Action}
      (hp : s.input.press? k = some (input, change, action)) : { s with input := input }.Ready :=
    ⟨h.ready.signatures, (Input.cursor_press h.ready.cursor hp).1, h.tab⟩
  induction he with
  | still hp =>
    rw [(Input.cursor_press h.ready.cursor hp).2 rfl]
    exact h
  | moved hp =>
    exact settled_refresh (hr hp) ⟨h.sound.browsing.index, h.sound.browsing.live⟩ false
  | inserted hp => exact settled_stopBrowsing_refresh (hr hp) true
  | deleted hp => exact settled_stopBrowsing_refresh (hr hp) false
  | quiet _ ih => exact settled_withoutOffers ih

end Settled

theorem sound_of_turned {s s' : Session} (h : s.Sound) (ht : Turned s s') : s'.Sound := by
  cases ht with
  | still => exact h
  | @shown t input ht hi =>
    obtain ⟨-, he⟩ := callAt_exact h.signatures s.document s.mode input
    refine ⟨he, hi, h.offered, ⟨h.browsing.index, h.browsing.live⟩, ?_, nofun⟩
    rintro t' ⟨⟩
    exact ht

theorem settled_cancelTab {s : Session} (h : s.Sound) : s.cancelTab.Settled := by
  rw [cancelTab]
  split
  next hn => exact h.settled hn
  next t _ =>
    have hr : { s with tab := none, input := s.input.restore t.before }.Ready :=
      ⟨h.signatures, Input.isPosition_set s.input _ _, rfl⟩
    exact settled_refresh hr ⟨h.browsing.index, h.browsing.live⟩ false

theorem settled_commitTab {s : Session} (h : s.Sound) : s.commitTab.Settled := by
  rw [commitTab]
  split
  next hn => exact h.settled hn
  next t _ =>
    have hr : { s with tab := none }.Ready := ⟨h.signatures, h.cursor, rfl⟩
    exact settled_refresh hr ⟨h.browsing.index, h.browsing.live⟩ false

section Press
variable {s s' : Session} {k : Key} {r : Session × List Request}

/-- All keys leave a settled session behind but those that start to go through the offers. -/
theorem settled_of_handled (h : s.Settled) (hr : Handled s k r) :
    r.1.Settled ∨ r.2 = [] ∧ (k.code = .tab ∨ k.code = .backTab) ∧ Turned s r.1 := by
  cases hr with
  | interrupt => exact .inl (settled_interrupt h)
  | quit => exact .inl h
  | clear => exact .inl (h.of_bare rfl)
  | toggle => exact .inl (h.switchMode _)
  | previous => exact .inl (settled_previous h _)
  | following => exact .inl (settled_following h _)
  | previousCommand => exact .inl (settled_previousCommand h)
  | followingCommand => exact .inl (settled_followingCommand h)
  | startTab hk ht => exact .inr ⟨rfl, hk, ht⟩
  | submit => exact .inl (settled_submit h.ready)
  | colon => exact .inl (h.switchMode _)
  | backspace => exact .inl (h.switchMode _)
  | escape => exact .inl (h.switchMode _)
  | edit he => exact .inl (settled_of_edited h he)

theorem kept_of_handled (h : s.Settled) (hr : Handled s k r) : Kept r.1 r.2 := by
  rcases settled_of_handled h hr with hs | ⟨hq, -, ht⟩
  · exact hs.kept _
  · rw [hq]
    exact (sound_of_turned h.sound ht).kept

theorem settled_left (h : s.Sound) (k : Key) : (s.left k).Settled := by
  rw [left]
  split
  · exact settled_commitTab h
  · exact settled_commitBrowse (settled_commitTab h)

theorem kept_press? {requests : List Request} (h : s.Sound)
    (hs : s.press? k = some (s', requests)) : Kept s' requests := by
  cases pressed_of_press? hs with
  | cycle _ _ hc => exact (sound_of_turned h hc).kept
  | cancel => exact (settled_cancelTab h).kept _
  | handled hr => exact kept_of_handled (settled_left h k) hr

end Press

end Tether.Session
