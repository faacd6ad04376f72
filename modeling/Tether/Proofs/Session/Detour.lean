import Tether.Proofs.Session.Draft

/-! Going through the commands of the history from any input and back to it: `restored_of_leads`. -/
namespace Tether.Session
open Text

def isCommandArrow (k : Key) : Bool := isAltArrow k && !k.ctrl

def throughCommands (s : Session) (k : Key) : Session :=
  if k.code = .up then s.previousCommand else s.followingCommand

theorem press?_commandArrow {s : Session} {k : Key} (ht : s.tab = none) (hk : isCommandArrow k) :
    s.press? k = some (s.throughCommands k, []) := by
  simp only [isCommandArrow, Bool.and_eq_true, Bool.not_eq_true'] at hk
  rw [press?_altArrow hk.1, commitTab_of_none ht, altArrow, hk.2, if_neg Bool.false_ne_true]
  rfl

/-- What is shown on a detour through the commands from a session on: its own input, or a command of
the history with that input put aside. -/
inductive Detour (s₀ s : Session) : Prop
  | home (hb : s.browse = none) (hm : s.mode = s₀.mode)
      (hp : s.input.snapshot = s₀.input.snapshot)
  | away {i : Nat} {e : HistoryEntry} (hb : s.browse = some ⟨s₀.mode, s₀.input.snapshot, i⟩)
      (hm : s.mode = .command) (he : s.history.get i = .ok e) (hc : e.mode = .command)
      (hv : s.input.value = e.line.toList) (hn : s.input.cursor = bytes s.input.value)

section Detour
variable {s₀ s : Session} {i : Nat}

theorem history_showCommand (s : Session) (i : Nat) : (s.showCommand i).history = s.history := by
  rw [showCommand]
  split
  · rfl
  · exact history_refresh _ false

theorem detour_showCommand (hb : s.browse = some ⟨s₀.mode, s₀.input.snapshot, i⟩)
    (hi : s.history.has (some .command) i) : Detour s₀ (s.showCommand i) := by
  obtain ⟨e, he, hc⟩ := History.get_of_has hi
  have hs : s.showCommand i = { s with mode := .command }.showLine e.line := by rw [showCommand, he]
  have hf := frame_refresh { s with mode := .command, input := s.input.setEnd e.line.toList } false
  rw [hs]
  refine .away ((browse_showLine _ _).trans hb) hf.mode ?_ hc rfl ?_
  · rw [← he]
    exact congrArg (History.get · i) hf.history
  · exact Input.cursor_set (isPosition_bytes e.line.toList)

theorem Detour.previousCommand (h : Detour s₀ s) : Detour s₀ s.previousCommand := by
  unfold Session.previousCommand
  dsimp only
  split
  · exact h
  next i hi =>
    have hc := History.has_of_prev? hi
    cases h with
    | home hb hm hp =>
      rw [hb]
      refine detour_showCommand ?_ hc
      change some (CommandBrowse.mk s.mode s.input.snapshot i) = _
      rw [hm, hp]
    | away hb =>
      rw [hb]
      exact detour_showCommand rfl hc

theorem Detour.followingCommand (hc : isPosition s₀.input.value s₀.input.cursor)
    (h : Detour s₀ s) : Detour s₀ s.followingCommand := by
  rw [Session.followingCommand]
  cases h with
  | home hb hm hp =>
    rw [hb]
    exact .home hb hm hp
  | away hb =>
    rw [hb]
    dsimp only
    split
    next i hi => exact detour_showCommand rfl (History.has_of_next? hi)
    next =>
      refine .home (browse_refresh _ false) (frame_refresh _ false).mode ?_
      exact Input.snapshot_restore hc s.input

theorem Detour.throughCommands (hc : isPosition s₀.input.value s₀.input.cursor) (h : Detour s₀ s)
    (k : Key) : Detour s₀ (s.throughCommands k) := by
  rw [Session.throughCommands]
  split
  · exact h.previousCommand
  · exact h.followingCommand hc

theorem history_throughCommands (s : Session) (k : Key) :
    (s.throughCommands k).history = s.history := by
  rw [throughCommands]
  split
  · unfold previousCommand
    dsimp only
    split
    · rfl
    · split <;> exact history_showCommand _ _
  · rw [followingCommand]
    split
    · rfl
    · split
      · exact history_showCommand _ _
      · exact history_refresh _ false

theorem settled_throughCommands (h : s.Settled) (k : Key) : (s.throughCommands k).Settled := by
  rw [throughCommands]
  split
  · exact settled_previousCommand h
  · exact settled_followingCommand h

theorem exists_leads_detour (hc : isPosition s₀.input.value s₀.input.cursor) (hs : s.Settled)
    (h : Detour s₀ s) {keys : List Key} (hk : ∀ k ∈ keys, isCommandArrow k) :
    ∃ s', Leads s keys s' ∧ s'.history = s.history ∧ Detour s₀ s' := by
  obtain ⟨s', hl, -, hh, h'⟩ := exists_leads
    (P := fun t => t.Settled ∧ t.history = s.history ∧ Detour s₀ t) ⟨hs, rfl, h⟩
    fun k hm t ⟨ht, hh, h⟩ =>
      ⟨_, press?_commandArrow ht.tab (hk k hm), settled_throughCommands ht k,
        (history_throughCommands t k).trans hh, h.throughCommands hc k⟩
  exact ⟨s', hl, hh, h'⟩

end Detour

/-- Whatever way the commands are gone through, behind them are the mode and the input from before,
and on the way a command of the history is shown with the cursor at its end. -/
theorem restored_of_leads {d : Document} {h : History} {name : String} {width : Nat}
    {matcher : Complete.Matcher} {s : Session} {requests : List Request}
    (hr : Reached (initial d h name width matcher) s requests) (ht : s.tab = none)
    (hb : s.browse = none) {keys : List Key} (hk : ∀ k ∈ keys, isCommandArrow k) :
    ∃ s', Leads s keys s' ∧ s'.history = s.history ∧
      (s'.browse = none → s'.mode = s.mode ∧ s'.input.value = s.input.value ∧
        s'.input.cursor = s.input.cursor) ∧
      (∀ b ∈ s'.browse, s'.mode = .command ∧
        ∃ e, s.history.get b.index = .ok e ∧ e.mode = .command ∧
          s'.input.value = e.line.toList ∧ s'.input.cursor = bytes e.line.toList) := by
  have hs := hr.sound
  obtain ⟨s', hl, hh, h'⟩ := exists_leads_detour hs.cursor (hs.settled ht) (.home hb rfl rfl) hk
  refine ⟨s', hl, hh, fun hb' => ?_, ?_⟩
  · cases h' with
    | home _ hm hp => exact ⟨hm, congrArg Snapshot.text hp, congrArg Snapshot.cursor hp⟩
    | away hb'' => exact absurd (hb'.symm.trans hb'') nofun
  · cases h' with
    | home hb' => simp [hb']
    | away hb' hm he hc hv hn =>
      rw [hb']
      rintro b ⟨⟩
      exact ⟨hm, _, hh ▸ he, hc, hv, hv ▸ hn⟩

/-- From an entry of the history, with the cursor inside it, past both commands and back. -/
theorem restored_of_leads_browsing : ∃ s s',
    Leads (new ⟨[]⟩ ⟨[⟨.command, "list"⟩, ⟨.eval, "12"⟩, ⟨.command, "help"⟩], none⟩ "t" 80)
      [⟨.up, false, false, false⟩, ⟨.up, false, false, false⟩, ⟨.left, false, false, false⟩] s ∧
    s.live.isSome ∧
    Leads s [⟨.up, false, true, false⟩, ⟨.up, false, true, false⟩, ⟨.up, false, true, false⟩,
      ⟨.down, false, true, false⟩, ⟨.down, false, true, false⟩] s' ∧
    s'.mode = .eval ∧ s'.input.value = ['1', '2'] ∧ s'.input.cursor = 1 := by
  have hk : ((new ⟨[]⟩ ⟨[⟨.command, "list"⟩, ⟨.eval, "12"⟩, ⟨.command, "help"⟩], none⟩ "t" 80).run?
      ([⟨.up, false, false, false⟩, ⟨.up, false, false, false⟩, ⟨.left, false, false, false⟩].map
        .key)).map (fun r => (r.1.tab.isNone && r.1.browse.isNone && r.1.live.isSome, r.1.mode,
          r.1.input.value, r.1.input.cursor)) = some (true, .eval, ['1', '2'], 1) := by
    decide +kernel
  have he : (((new ⟨[]⟩ ⟨[⟨.command, "list"⟩, ⟨.eval, "12"⟩, ⟨.command, "help"⟩], none⟩ "t" 80).run?
      ([⟨.up, false, false, false⟩, ⟨.up, false, false, false⟩, ⟨.left, false, false, false⟩].map
        .key)).bind fun r => r.1.run? ([⟨.up, false, true, false⟩, ⟨.up, false, true, false⟩,
          ⟨.up, false, true, false⟩, ⟨.down, false, true, false⟩, ⟨.down, false, true, false⟩].map
            .key)).map (fun r => r.1.browse.isNone) = some true := by
    decide +kernel
  obtain ⟨⟨s, all⟩, hr, hs⟩ := Option.map_eq_some_iff.1 hk
  simp only [Prod.mk.injEq, Bool.and_eq_true, Option.isNone_iff_eq_none] at hs
  obtain ⟨⟨⟨ht, hb⟩, hl⟩, hm, hv, hc⟩ := hs
  obtain ⟨last, hd⟩ := Reached.start.run hr
  have hks : ∀ k ∈ [(⟨.up, false, true, false⟩ : Key), ⟨.up, false, true, false⟩,
      ⟨.up, false, true, false⟩, ⟨.down, false, true, false⟩, ⟨.down, false, true, false⟩],
      isCommandArrow k := by decide
  obtain ⟨s', ⟨all', hr'⟩, -, hh, -⟩ := restored_of_leads hd ht hb hks
  rw [hr, Option.bind_some, hr'] at he
  obtain ⟨hm', hv', hc'⟩ := hh (by simpa using he)
  exact ⟨s, s', ⟨all, hr⟩, hl, ⟨all', hr'⟩, hm'.trans hm, hv'.trans hv, hc'.trans hc⟩

end Tether.Session
