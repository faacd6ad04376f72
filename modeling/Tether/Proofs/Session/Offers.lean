import Tether.Proofs.Session.Run

/-! The candidates of a session are those that its offers were taken from, and are found again for
its input: `stocked_of_reached`. -/
namespace Tether.Session
open Complete

/-- While something is offered for the input, the candidates are those that are found for it. -/
def Stocked (s : Session) : Prop :=
  s.tab = none → s.offers = [] ∨ s.candidates = s.inputOffers.1

theorem stocked_refresh (s : Session) (confirm : Bool) : (s.refresh confirm).Stocked := by
  rw [refresh]
  dsimp only
  split
  · exact fun _ => .inr rfl
  · exact fun _ => .inl rfl

theorem stocked_showLine (s : Session) (line : String) : (s.showLine line).Stocked :=
  stocked_refresh _ false

section Handlers
variable {s s' : Session} (h : s.Stocked)
include h

theorem Stocked.showEntry (i : Nat) (follow : Bool) : (s.showEntry i follow).Stocked := by
  rw [Session.showEntry]
  split
  · exact h
  · exact stocked_showLine _ _

theorem Stocked.previous (filter : Option Mode) : (s.previous filter).Stocked := by
  rw [Session.previous]
  split
  · exact h
  · refine Stocked.showEntry ?_ _ _
    exact h

theorem Stocked.following (filter : Option Mode) : (s.following filter).Stocked := by
  rw [Session.following]
  split
  · exact h
  · split
    · exact h.showEntry _ _
    · exact stocked_refresh _ false

theorem Stocked.showCommand (i : Nat) : (s.showCommand i).Stocked := by
  rw [Session.showCommand]
  split
  · exact h
  · exact stocked_showLine _ _

theorem Stocked.previousCommand : s.previousCommand.Stocked := by
  unfold Session.previousCommand
  dsimp only
  split
  · exact h
  · split
    all_goals
      refine Stocked.showCommand ?_ _
      exact h

theorem Stocked.followingCommand : s.followingCommand.Stocked := by
  rw [Session.followingCommand]
  split
  · exact h
  · split
    · refine Stocked.showCommand ?_ _
      exact h
    · exact stocked_refresh _ false

theorem Stocked.park (mode : Mode) (p : Snapshot) : (s.park mode p).Stocked := by
  cases mode with
  | eval => exact h
  | command => exact h

theorem Stocked.commitBrowse : s.commitBrowse.Stocked := by
  rw [Session.commitBrowse]
  split
  · exact h
  · dsimp only
    split
    · exact h
    · refine Stocked.park ?_ _ _
      exact h

theorem Stocked.commitTab : s.commitTab.Stocked := by
  rw [Session.commitTab]
  split
  · exact h
  · exact stocked_refresh _ false

theorem Stocked.cancelTab : s.cancelTab.Stocked := by
  rw [Session.cancelTab]
  split
  · exact h
  · exact stocked_refresh _ false

theorem Stocked.switchMode (mode : Mode) : (s.switchMode mode).Stocked := by
  rw [Session.switchMode]
  split
  · exact h
  · exact stocked_refresh _ false

theorem Stocked.interrupt : s.interrupt.1.Stocked := by
  rw [Session.interrupt]
  split
  · exact h
  · exact stocked_refresh _ false

theorem stocked_of_edited (hs : s.Settled) {k : Key} (he : Edited s k s') : s'.Stocked := by
  induction he with
  | still hp =>
    rw [(Input.cursor_press hs.ready.cursor hp).2 rfl]
    exact h
  | moved => exact stocked_refresh _ false
  | inserted => exact stocked_refresh _ true
  | deleted => exact stocked_refresh _ false
  | quiet => exact fun _ => .inl rfl

theorem stocked_of_turned (ht : Turned s s') : s'.Stocked := by
  cases ht with
  | still => exact h
  | shown => exact nofun

end Handlers

theorem stocked_submit (s : Session) : s.submit.1.Stocked := by
  rw [submit]
  exact stocked_refresh _ false

section Press
variable {s : Session} {k : Key} {r : Session × List Request}

theorem stocked_of_handled (hs : s.Settled) (h : s.Stocked) (hr : Handled s k r) : r.1.Stocked := by
  cases hr with
  | interrupt => exact h.interrupt
  | quit => exact h
  | clear => exact h
  | toggle => exact h.switchMode _
  | previous => exact h.previous _
  | following => exact h.following _
  | previousCommand => exact h.previousCommand
  | followingCommand => exact h.followingCommand
  | startTab _ ht => exact stocked_of_turned h ht
  | submit => exact stocked_submit s
  | colon => exact h.switchMode _
  | backspace => exact h.switchMode _
  | escape => exact h.switchMode _
  | edit he => exact stocked_of_edited h hs he

theorem Stocked.left (h : s.Stocked) (k : Key) : (s.left k).Stocked := by
  rw [Session.left]
  split
  · exact h.commitTab
  · exact h.commitTab.commitBrowse

theorem stocked_press? (hs : s.Sound) (h : s.Stocked) (hp : s.press? k = some r) :
    r.1.Stocked := by
  cases pressed_of_press? hp with
  | cycle _ _ hc => exact stocked_of_turned h hc
  | cancel => exact h.cancelTab
  | handled hr => exact stocked_of_handled (settled_left hs k) (h.left k) hr

end Press

theorem stocked_of_reached {d : Document} {h : History} {name : String} {width : Nat}
    {matcher : Complete.Matcher} {s : Session} {requests : List Request}
    (hr : Reached (initial d h name width matcher) s requests) : s.Stocked := by
  induction hr with
  | start => exact fun _ => .inl rfl
  | key hr hu ih =>
    exact stocked_press? hr.sound ih hu
  | resize _ hu ih =>
    cases hu
    exact ih
  | edited _ _ hu =>
    cases hu
    exact stocked_refresh _ false

end Tether.Session
