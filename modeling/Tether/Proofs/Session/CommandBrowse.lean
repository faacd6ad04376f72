import Tether.Proofs.Session.Run

/-! Browsing the commands of the history beside browsing the history itself: `apart_iff`. -/
namespace Tether.Session
open Complete Text

section Browse
variable (s : Session)

@[simp]
theorem browse_refresh (confirm : Bool) : (s.refresh confirm).browse = s.browse := by
  rw [refresh]
  dsimp only
  split
  · rfl
  · rfl

@[simp]
theorem browse_showLine (line : String) : (s.showLine line).browse = s.browse :=
  browse_refresh _ false

@[simp]
theorem browse_showEntry (i : Nat) (follow : Bool) : (s.showEntry i follow).browse = s.browse := by
  rw [showEntry]
  split
  · rfl
  · exact browse_showLine _ _

@[simp]
theorem browse_previous (filter : Option Mode) : (s.previous filter).browse = s.browse := by
  rw [previous]
  split
  · rfl
  · exact browse_showEntry _ _ _

@[simp]
theorem browse_following (filter : Option Mode) : (s.following filter).browse = s.browse := by
  rw [following]
  split
  · rfl
  · split
    · exact browse_showEntry _ _ _
    · dsimp only
      split
      · exact browse_refresh _ _
      · exact browse_refresh _ _

@[simp]
theorem browse_park (mode : Mode) (p : Snapshot) : (s.park mode p).browse = s.browse := by
  cases mode with
  | eval => rfl
  | command => rfl

@[simp]
theorem browse_switchMode (mode : Mode) : (s.switchMode mode).browse = s.browse := by
  rw [switchMode]
  split
  · rfl
  · simp [stopBrowsing]

@[simp]
theorem browse_obey (line : String) : (s.obey line).1.browse = s.browse := by
  unfold obey
  dsimp only
  split
  all_goals simp [say]

@[simp]
theorem browse_runLine (line : String) : (s.runLine line).1.browse = s.browse := by
  rw [runLine]
  generalize s.history.write line s.mode = w
  obtain ⟨history, error⟩ := w
  dsimp only
  split <;> split <;> simp [evaluate, say]

@[simp]
theorem browse_submit : s.submit.1.browse = s.browse := by
  rw [submit]
  dsimp only
  split
  · simp
  · simp

@[simp]
theorem browse_interrupt : s.interrupt.1.browse = s.browse := by
  rw [interrupt]
  split
  · rfl
  · simp [stopBrowsing]

@[simp]
theorem browse_cancelTab : s.cancelTab.browse = s.browse := by
  rw [cancelTab]
  split
  · rfl
  · simp

@[simp]
theorem browse_commitTab : s.commitTab.browse = s.browse := by
  rw [commitTab]
  split
  · rfl
  · simp

@[simp]
theorem browse_commitBrowse : s.commitBrowse.browse = none := by
  rw [commitBrowse]
  split
  · assumption
  · dsimp only
    split
    · rfl
    · simp

end Browse

section Handlers
variable {s s' : Session} {k : Key} {requests : List Request}

theorem browse_of_edited (h : Edited s k s') : s'.browse = s.browse := by
  induction h with
  | still => rfl
  | moved => exact browse_refresh _ _
  | inserted => exact browse_refresh _ _
  | deleted => exact browse_refresh _ _
  | quiet _ ih => exact ih

theorem browse_of_turned (h : Turned s s') : s'.browse = s.browse := by
  cases h with
  | still => rfl
  | shown => rfl

theorem browse_of_handled {r : Session × List Request} (hk : isAltArrow k = false)
    (h : Handled s k r) : r.1.browse = s.browse := by
  cases h with
  | interrupt | quit | clear | toggle | previous | following | submit | colon | backspace | escape =>
    simp
  | previousCommand ha hc => simp [isAltArrow, ha, hc] at hk
  | followingCommand ha hc => simp [isAltArrow, ha, hc] at hk
  | startTab _ ht => exact browse_of_turned ht
  | edit he => exact browse_of_edited he

def altArrow (s : Session) (k : Key) : Session :=
  if k.ctrl then if k.code = .up then s.previous (some s.mode) else s.following (some s.mode)
  else if k.code = .up then s.previousCommand else s.followingCommand

theorem press?_altArrow (hk : isAltArrow k) :
    s.press? k = some (s.commitTab.altArrow k, []) := by
  have hc : k.code = .up ∨ k.code = .down := by
    simp only [isAltArrow, Bool.and_eq_true, Bool.or_eq_true, decide_eq_true_eq] at hk
    exact hk.2
  have ho (s : Session) : s.pressOutsideTab? k = some (s.altArrow k, []) := by
    rw [pressOutsideTab?, if_pos hk, altArrow]
    rcases hc with hc | hc <;> cases k.ctrl <;> simp [control?, hc, hk]
  rw [press?]
  split
  · rcases hc with hc | hc <;> simp [hc, ho]
  next ht => rw [commitTab_of_none (by simpa using ht), ho]

theorem browse_press? {r : Session × List Request} (ht : s.browse.isSome → s.tab = none)
    (hk : isAltArrow k = false) (h : s.press? k = some r) : r.1.browse = none := by
  have hn (hs : s.tab.isSome) : s.browse = none := by
    by_contra hb
    simp [ht (Option.isSome_iff_ne_none.2 hb)] at hs
  cases pressed_of_press? h with
  | cycle hs _ hc => exact (browse_of_turned hc).trans (hn hs)
  | cancel hs => exact (browse_cancelTab s).trans (hn hs)
  | handled hr => rw [browse_of_handled hk hr, left, hk, if_neg Bool.false_ne_true, browse_commitBrowse]

end Handlers

section Frame
variable {s s' : Session} {b : CommandBrowse} {k : Key} {i : Nat}

/-- While commands are shown, a line of another mode is neither shown nor put aside. -/
structure Shown (s : Session) (b : CommandBrowse) : Prop where
  tab : s.tab = none
  mode : s.mode = .command
  live : ∀ l ∈ s.live, l.1 = .command
  entry : s.history.has (some .command) b.index

theorem Shown.refresh (h : s.Shown b) (confirm : Bool) : (s.refresh confirm).Shown b := by
  have hf := frame_refresh s confirm
  exact ⟨hf.tab.trans h.tab, hf.mode.trans h.mode, by rw [hf.live]; exact h.live,
    by rw [hf.history]; exact h.entry⟩

theorem Shown.showLine (h : s.Shown b) (line : String) : (s.showLine line).Shown b := by
  refine Shown.refresh ?_ false
  exact ⟨h.tab, h.mode, h.live, h.entry⟩

theorem Shown.showEntry (h : s.Shown b) (i : Nat) : (s.showEntry i false).Shown b := by
  rw [Session.showEntry]
  split
  · exact h
  · refine Shown.showLine ?_ _
    exact ⟨h.tab, h.mode, h.live, h.entry⟩

theorem Shown.previous (h : s.Shown b) : (s.previous (some s.mode)).Shown b := by
  rw [Session.previous]
  split
  · exact h
  · refine Shown.showEntry ?_ _
    refine ⟨h.tab, h.mode, ?_, h.entry⟩
    rintro l ⟨⟩
    cases hl : s.live with
    | none => exact h.mode
    | some l => exact h.live l hl

theorem Shown.following (h : s.Shown b) : (s.following (some s.mode)).Shown b := by
  rw [Session.following]
  split
  · exact h
  · split
    · exact h.showEntry _
    · refine Shown.refresh ?_ false
      split
      · exact ⟨h.tab, h.mode, h.live, h.entry⟩
      next mode p hl => exact ⟨h.tab, h.live (mode, p) hl, by simp, h.entry⟩

theorem showCommand_eq (s : Session) (hi : s.history.has (some .command) i) :
    ∃ line, s.showCommand i = { s with mode := .command }.showLine line := by
  obtain ⟨e, he, -⟩ := History.get_of_has hi
  exact ⟨e.line, by rw [showCommand, he]⟩

theorem shown_showCommand (ht : s.tab = none) (hl : ∀ l ∈ s.live, l.1 = .command)
    (hi : s.history.has (some .command) i) (he : b.index = i) : (s.showCommand i).Shown b := by
  subst he
  obtain ⟨line, hs⟩ := showCommand_eq s hi
  rw [hs]
  refine Shown.showLine ?_ line
  exact ⟨ht, rfl, hl, hi⟩

@[simp]
theorem browse_showCommand (s : Session) (i : Nat) : (s.showCommand i).browse = s.browse := by
  rw [showCommand]
  split
  · rfl
  · exact browse_showLine _ _

variable (ht : s.tab = none) (hb : ∀ b ∈ s.browse, s.Shown b)
include ht hb

theorem shown_previousCommand : ∀ b ∈ s.previousCommand.browse, s.previousCommand.Shown b := by
  unfold previousCommand
  dsimp only
  split
  · exact hb
  next i hi =>
    have hc := History.has_of_prev? hi
    split
    next b he =>
      rw [browse_showCommand]
      rintro b' ⟨⟩
      refine shown_showCommand ?_ ?_ hc rfl
      · exact ht
      · exact (hb b he).live
    next =>
      rw [browse_showCommand]
      rintro b' ⟨⟩
      refine shown_showCommand ?_ ?_ hc rfl
      · exact ht
      · exact nofun

theorem shown_followingCommand :
    ∀ b ∈ s.followingCommand.browse, s.followingCommand.Shown b := by
  rw [followingCommand]
  split
  · exact hb
  next b he =>
    split
    next i hi =>
      rw [browse_showCommand]
      rintro b' ⟨⟩
      refine shown_showCommand ?_ ?_ (History.has_of_next? hi) rfl
      · exact ht
      · exact (hb b he).live
    next =>
      rw [browse_refresh]
      simp

theorem shown_altArrow (k : Key) : ∀ b ∈ (s.altArrow k).browse, (s.altArrow k).Shown b := by
  rw [altArrow]
  split
  · split
    · rw [browse_previous]
      exact fun b he => (hb b he).previous
    · rw [browse_following]
      exact fun b he => (hb b he).following
  · split
    · exact shown_previousCommand ht hb
    · exact shown_followingCommand ht hb

end Frame

/-- No entry of the history is shown as such while commands are gone through. -/
def Apart (s : Session) : Prop :=
  s.browse.isSome → s.index = s.history.length ∧ s.live = none

section Apart
variable {s : Session} {k : Key}

theorem Apart.refresh (h : s.Apart) (confirm : Bool) : (s.refresh confirm).Apart := by
  have hf := frame_refresh s confirm
  intro hb
  rw [browse_refresh] at hb
  rw [hf.index, hf.history, hf.live]
  exact h hb

theorem Apart.showCommand (h : s.Apart) {i : Nat} (hi : s.history.has (some .command) i) :
    (s.showCommand i).Apart := by
  obtain ⟨line, hs⟩ := showCommand_eq s hi
  rw [hs]
  refine Apart.refresh ?_ false
  exact h

theorem Apart.previousCommand (h : s.Apart) : s.previousCommand.Apart := by
  unfold Session.previousCommand
  dsimp only
  split
  · exact h
  next i hi =>
    split
    next b hb =>
      refine Apart.showCommand ?_ (History.has_of_prev? hi)
      exact fun _ => h (Option.isSome_of_eq_some hb)
    next =>
      refine Apart.showCommand ?_ (History.has_of_prev? hi)
      exact fun _ => ⟨rfl, rfl⟩

theorem Apart.followingCommand (h : s.Apart) : s.followingCommand.Apart := by
  rw [Session.followingCommand]
  split
  · exact h
  next b hb =>
    split
    next i hi =>
      refine Apart.showCommand ?_ (History.has_of_next? hi)
      exact fun _ => h (Option.isSome_of_eq_some hb)
    next =>
      refine Apart.refresh ?_ false
      intro hb
      cases hb

theorem Apart.altArrow (h : s.Apart) (hk : s.browse.isSome → ¬ (k.ctrl ∧ k.code = .up)) :
    (s.altArrow k).Apart := by
  rw [Session.altArrow]
  split
  next hc =>
    split
    next hu =>
      intro hb
      rw [browse_previous] at hb
      exact absurd ⟨hc, hu⟩ (hk hb)
    next =>
      intro hb
      rw [browse_following] at hb
      have hf : s.following (some s.mode) = s := by
        rw [following, if_pos (h hb).1.ge]
      rw [hf]
      exact h hb
  next =>
    split
    · exact h.previousCommand
    · exact h.followingCommand

/-- With control too, the arrow shows the same entry as one of the history. -/
theorem not_apart_altArrow (h : s.Apart) (hs : ∀ b ∈ s.browse, s.Shown b) (hb : s.browse.isSome)
    (hc : k.ctrl) (hu : k.code = .up) : ¬ (s.altArrow k).Apart := by
  obtain ⟨b, he⟩ := Option.isSome_iff_exists.1 hb
  have hm := (hs b he).mode
  have hlt : b.index < min s.index s.history.length := by
    rw [(h hb).1, Nat.min_self]
    exact History.lt_of_has (hs b he).entry
  obtain ⟨i, hi⟩ := Option.isSome_iff_exists.1 (History.isSome_prev? (hs b he).entry hlt)
  obtain ⟨e, hg, -⟩ := History.get_of_has (History.has_of_prev? hi)
  intro ha
  rw [altArrow, if_pos hc, if_pos hu] at ha
  have hl := (ha (by rwa [browse_previous])).2
  rw [previous, hm, hi] at hl
  dsimp only at hl
  rw [showEntry, hg] at hl
  have hf := (frame_refresh _ false).live.symm.trans hl
  cases hf

end Apart

section Press
variable {s : Session} {k : Key} {r : Session × List Request}

theorem shown_commitTab (h : ∀ b ∈ s.browse, s.Shown b) :
    ∀ b ∈ s.commitTab.browse, s.commitTab.Shown b := by
  rw [browse_commitTab]
  intro b hb
  rw [commitTab_of_none (h b hb).tab]
  exact h b hb

theorem tab_eq_none (h : ∀ b ∈ s.browse, s.Shown b) (hb : s.browse.isSome) : s.tab = none := by
  obtain ⟨b, hb⟩ := Option.isSome_iff_exists.1 hb
  exact (h b hb).tab

theorem shown_press? (hs : s.Sound) (h : ∀ b ∈ s.browse, s.Shown b) (hp : s.press? k = some r) :
    ∀ b ∈ r.1.browse, r.1.Shown b := by
  cases ha : isAltArrow k with
  | false =>
    rw [browse_press? (tab_eq_none h) ha hp]
    exact nofun
  | true =>
    rw [press?_altArrow ha] at hp
    obtain rfl := Option.some.inj hp
    exact shown_altArrow (settled_commitTab hs).tab (shown_commitTab h) k

theorem Apart.commitTab (h : s.Apart) : s.commitTab.Apart := by
  rw [Session.commitTab]
  split
  · exact h
  · refine Apart.refresh ?_ false
    exact h

/-- The arrow that shows an entry of the history although it has alt. -/
def isOverlap (k : Key) : Bool := k.ctrl && k.alt && k.code = .up

theorem apart_press? (h : ∀ b ∈ s.browse, s.Shown b) (ha : s.Apart)
    (hk : s.browse.isSome → isOverlap k = false) (hp : s.press? k = some r) : r.1.Apart := by
  cases hx : isAltArrow k with
  | false =>
    intro hb
    simp [browse_press? (tab_eq_none h) hx hp] at hb
  | true =>
    rw [press?_altArrow hx] at hp
    obtain rfl := Option.some.inj hp
    refine ha.commitTab.altArrow fun hb hc => ?_
    rw [browse_commitTab] at hb
    have hk := hk hb
    simp_all [isOverlap, isAltArrow]

theorem not_apart_press? (h : ∀ b ∈ s.browse, s.Shown b) (ha : s.Apart) (hb : s.browse.isSome)
    (hk : isOverlap k) : ∃ r, s.press? k = some r ∧ ¬ r.1.Apart := by
  have hx : isAltArrow k ∧ k.ctrl ∧ k.code = .up := by simp_all [isOverlap, isAltArrow]
  refine ⟨_, press?_altArrow hx.1, ?_⟩
  rw [commitTab_of_none (tab_eq_none h hb)]
  exact not_apart_altArrow ha h hb hx.2.1 hx.2.2

end Press

section Run
variable {d : Document} {h : History} {name : String} {width : Nat} {matcher : Complete.Matcher}
  {keys : List Key} {s : Session}

theorem sound_of_leads (hl : Leads (initial d h name width matcher) keys s) : s.Sound := by
  obtain ⟨requests, hr⟩ := hl
  obtain ⟨last, hd⟩ := Reached.start.run hr
  exact hd.sound

theorem shown_of_leads (hl : Leads (initial d h name width matcher) keys s) :
    ∀ b ∈ s.browse, s.Shown b := by
  induction keys using List.reverseRecOn generalizing s with
  | nil =>
    obtain ⟨requests, hr⟩ := hl
    cases hr
    exact nofun
  | append_singleton ks k ih =>
    obtain ⟨t, r, ht, hp, rfl⟩ := leads_concat.1 hl
    exact shown_press? (sound_of_leads ht) (ih ht) hp

/-- While commands are gone through, the mode is theirs and the entry shown is one of them. No entry
of the history is shown as such just until control is held with an arrow up that has alt. -/
theorem apart_iff :
    (∀ s, Leads (initial d h name width matcher) keys s → ∀ b ∈ s.browse,
      s.mode = .command ∧ ∃ e, s.history.get b.index = .ok e ∧ e.mode = .command) ∧
    ((∀ ks s, ks <+: keys → Leads (initial d h name width matcher) ks s → s.Apart) ↔
      ∀ ks k s, ks ++ [k] <+: keys → Leads (initial d h name width matcher) ks s →
        s.browse.isSome → isOverlap k = false) := by
  refine ⟨fun s hl b hb => ?_, fun ha ks k s hk hl hb => ?_, fun hk ks => ?_⟩
  · have hs := shown_of_leads hl b hb
    exact ⟨hs.mode, History.get_of_has hs.entry⟩
  · by_contra ho
    have hx := ha ks s ((List.prefix_append ks [k]).trans hk) hl
    obtain ⟨r, hp, hn⟩ := not_apart_press? (shown_of_leads hl) hx hb (Bool.not_eq_false _ ▸ ho)
    exact hn (ha (ks ++ [k]) r.1 hk (leads_concat.2 ⟨s, r, hl, hp, rfl⟩))
  · induction ks using List.reverseRecOn with
    | nil =>
      rintro s - ⟨requests, hr⟩
      cases hr
      exact nofun
    | append_singleton ks k ih =>
      intro s hpre hl
      obtain ⟨t, r, ht, hp, rfl⟩ := leads_concat.1 hl
      have ha := ih t ((List.prefix_append ks [k]).trans hpre) ht
      exact apart_press? (shown_of_leads ht) ha (hk ks k t hpre ht) hp

/-- The only command of the history is shown, and then once more as an entry of its own. -/
theorem apart_iff_overlap : ∃ s,
    Leads (new ⟨[]⟩ ⟨[⟨.command, "list"⟩], none⟩ "t" 80)
      [⟨.up, false, true, false⟩, ⟨.up, true, true, false⟩] s ∧
    s.browse.isSome ∧ s.live.isSome ∧ s.index < s.history.length ∧ ¬ s.Apart := by
  have hk : ((new ⟨[]⟩ ⟨[⟨.command, "list"⟩], none⟩ "t" 80).run?
      ([⟨.up, false, true, false⟩, ⟨.up, true, true, false⟩].map .key)).map
      (fun r => (r.1.browse.isSome, r.1.live.isSome, r.1.index, r.1.history.length)) =
        some (true, true, 0, 1) := by
    cbv
  obtain ⟨⟨s, requests⟩, hr, hs⟩ := Option.map_eq_some_iff.1 hk
  simp only [Prod.mk.injEq] at hs
  obtain ⟨hb, hl, hi, hn⟩ := hs
  refine ⟨s, ⟨requests, hr⟩, hb, hl, by omega, fun ha => ?_⟩
  have := (ha hb).1
  omega

end Run

end Tether.Session
