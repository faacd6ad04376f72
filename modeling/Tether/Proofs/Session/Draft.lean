import Tether.Proofs.Session.CommandBrowse

/-! Going through the history and back to the input of one's own: `draft_of_leads`. -/
namespace Tether.Session
open Text

def isHistoryKey (k : Key) : Bool :=
  !k.alt && (k.code = .up || k.code = .down || k.ctrl && (k.code = .char 'p' || k.code = .char 'n'))

/-- Control keeps to the entries of the mode. -/
def throughHistory (s : Session) (k : Key) : Session :=
  let filter := if k.ctrl then some s.mode else none
  if k.code = .up ∨ k.code = .char 'p' then s.previous filter else s.following filter

theorem press?_historyKey {s : Session} {k : Key} (ht : s.tab = none) (hb : s.browse = none)
    (hk : isHistoryKey k) : s.press? k = some (s.throughHistory k, []) := by
  obtain ⟨code, ctrl, alt, shift⟩ := k
  simp only [isHistoryKey, Bool.and_eq_true, Bool.or_eq_true, Bool.not_eq_true',
    decide_eq_true_eq] at hk
  obtain ⟨rfl, (rfl | rfl) | ⟨rfl, rfl | rfl⟩⟩ := hk
  case inl.inl | inl.inr =>
    cases ctrl <;> simp [press?, ht, pressOutsideTab?, isAltArrow, commitBrowse_of_none hb, control?,
      plain?, throughHistory]
  all_goals
    simp [press?, ht, pressOutsideTab?, isAltArrow, commitBrowse_of_none hb, control?,
      throughHistory]

/-- What is shown while the history is gone through from a session on: its own input, or an entry
of the history with that input put aside. -/
inductive Shows (s₀ s : Session) : Prop
  | draft (hi : s.index = s.history.length) (hm : s.mode = s₀.mode)
      (hp : s.input.snapshot = s₀.input.snapshot) (hl : s.live = none)
  | entry {e : HistoryEntry} (he : s.history.get s.index = .ok e)
      (hv : s.input.value = e.line.toList) (hl : s.live = some (s₀.mode, s₀.input.snapshot))

section Shows
variable {s₀ s : Session}

theorem shows_showEntry {i : Nat} (hi : i < s.history.length)
    (hl : s.live = some (s₀.mode, s₀.input.snapshot)) (follow : Bool) :
    Shows s₀ (s.showEntry i follow) := by
  obtain ⟨e, he⟩ := History.get_of_lt hi
  rw [showEntry, he]
  exact .entry he rfl hl

theorem Shows.previous (h : Shows s₀ s) (filter : Option Mode) : Shows s₀ (s.previous filter) := by
  rw [Session.previous]
  split
  · exact h
  next i hi =>
    dsimp only
    refine shows_showEntry ?_ ?_ _
    · exact (History.of_prev? hi).2
    cases h with
    | draft _ hm hp hl =>
      change some (s.live.getD (s.mode, s.input.snapshot)) = _
      rw [hl, Option.getD_none, hm, hp]
    | entry _ _ hl =>
      change some (s.live.getD (s.mode, s.input.snapshot)) = _
      rw [hl, Option.getD_some]

theorem Shows.following (hc : isPosition s₀.input.value s₀.input.cursor) (h : Shows s₀ s)
    (filter : Option Mode) : Shows s₀ (s.following filter) := by
  rw [Session.following]
  split
  · exact h
  next hlt =>
    cases h with
    | draft hi => omega
    | entry _ _ hl =>
      split
      next i hi => exact shows_showEntry (History.of_next? hi).2 hl _
      next =>
        rw [hl]
        exact .draft rfl rfl (Input.snapshot_restore hc s.input) rfl

theorem Shows.throughHistory (hc : isPosition s₀.input.value s₀.input.cursor) (h : Shows s₀ s)
    (k : Key) : Shows s₀ (s.throughHistory k) := by
  rw [Session.throughHistory]
  split
  · exact h.previous _
  · exact h.following hc _

end Shows

section History
variable (s : Session)

theorem history_refresh (confirm : Bool) : (s.refresh confirm).history = s.history :=
  (frame_refresh s confirm).history

theorem history_showEntry (i : Nat) (follow : Bool) : (s.showEntry i follow).history = s.history := by
  rw [showEntry]
  split
  · rfl
  · exact history_refresh _ false

theorem history_previous (filter : Option Mode) : (s.previous filter).history = s.history := by
  rw [previous]
  split
  · rfl
  · exact history_showEntry _ _ _

theorem history_following (filter : Option Mode) : (s.following filter).history = s.history := by
  rw [following]
  split
  · rfl
  · split
    · exact history_showEntry _ _ _
    · rw [history_refresh]
      dsimp only
      split
      · rfl
      · rfl

theorem history_throughHistory (k : Key) : (s.throughHistory k).history = s.history := by
  rw [throughHistory]
  split
  · exact history_previous s _
  · exact history_following s _

end History

theorem settled_throughHistory {s : Session} (h : s.Settled) (k : Key) :
    (s.throughHistory k).Settled := by
  rw [throughHistory]
  split
  · exact settled_previous h _
  · exact settled_following h _

theorem browse_throughHistory (s : Session) (k : Key) : (s.throughHistory k).browse = s.browse := by
  rw [throughHistory]
  split
  · exact browse_previous s _
  · exact browse_following s _

theorem exists_leads_shows {s₀ s : Session} (hc : isPosition s₀.input.value s₀.input.cursor)
    (hs : s.Settled) (hb : s.browse = none) (h : Shows s₀ s) {keys : List Key}
    (hk : ∀ k ∈ keys, isHistoryKey k) :
    ∃ s', Leads s keys s' ∧ s'.history = s.history ∧ Shows s₀ s' := by
  obtain ⟨s', hl, -, -, hh, h'⟩ := exists_leads
    (P := fun t => t.Settled ∧ t.browse = none ∧ t.history = s.history ∧ Shows s₀ t)
    ⟨hs, hb, rfl, h⟩ fun k hm t ⟨ht, hb, hh, h⟩ =>
      ⟨_, press?_historyKey ht.tab hb (hk k hm), settled_throughHistory ht k,
        (browse_throughHistory t k).trans hb, (history_throughHistory t k).trans hh,
        h.throughHistory hc k⟩
  exact ⟨s', hl, hh, h'⟩

/-- Whatever way the history is gone through, its end is the mode and the input from before, and
anywhere else its entry is shown. -/
theorem draft_of_leads {d : Document} {h : History} {name : String} {width : Nat}
    {matcher : Complete.Matcher} {s : Session} {requests : List Request}
    (hr : Reached (initial d h name width matcher) s requests) (ht : s.tab = none)
    (hb : s.browse = none) (hi : s.index = s.history.length) {keys : List Key}
    (hk : ∀ k ∈ keys, isHistoryKey k) :
    ∃ s', Leads s keys s' ∧ s'.history = s.history ∧
      (s'.index = s'.history.length → s'.mode = s.mode ∧ s'.input.value = s.input.value ∧
        s'.input.cursor = s.input.cursor) ∧
      (s'.index ≠ s'.history.length →
        ∃ e, s'.history.get s'.index = .ok e ∧ s'.input.value = e.line.toList) := by
  have hs := hr.sound
  have hl : s.live = none := by
    have := hs.browsing.live
    rw [← Option.not_isSome_iff_eq_none, this]
    omega
  obtain ⟨s', hl, hh, h'⟩ := exists_leads_shows hs.cursor (hs.settled ht) hb (.draft hi rfl rfl hl) hk
  refine ⟨s', hl, hh, fun hi' => ?_, fun hi' => ?_⟩
  · cases h' with
    | draft _ hm hp _ => exact ⟨hm, congrArg Snapshot.text hp, congrArg Snapshot.cursor hp⟩
    | entry he _ _ => exact absurd hi' (Nat.ne_of_lt (History.lt_of_get he))
  · cases h' with
    | draft hi => exact absurd hi hi'
    | entry he hv _ => exact ⟨_, he, hv⟩

/-- From a command back to the expression that was being typed: the last arrow keeps to commands, of
which there is no other. -/
theorem draft_of_leads_modes : ∃ s s',
    Leads (new ⟨[]⟩ ⟨[⟨.command, "list"⟩, ⟨.eval, "2"⟩], none⟩ "t" 80)
      [.char '1', ⟨.left, false, false, false⟩] s ∧
    Leads s [⟨.up, false, false, false⟩, ⟨.up, false, false, false⟩, ⟨.down, true, false, false⟩] s' ∧
    s'.mode = .eval ∧ s'.input.value = ['1'] ∧ s'.input.cursor = 0 := by
  have hk : ((new ⟨[]⟩ ⟨[⟨.command, "list"⟩, ⟨.eval, "2"⟩], none⟩ "t" 80).run?
      ([.char '1', ⟨.left, false, false, false⟩].map .key)).map
      (fun r => (r.1.tab.isNone && r.1.browse.isNone && r.1.index == r.1.history.length, r.1.mode,
        r.1.input.value, r.1.input.cursor)) = some (true, .eval, ['1'], 0) := by
    decide +kernel
  have he : (((new ⟨[]⟩ ⟨[⟨.command, "list"⟩, ⟨.eval, "2"⟩], none⟩ "t" 80).run?
      ([.char '1', ⟨.left, false, false, false⟩].map .key)).bind fun r => r.1.run?
        ([⟨.up, false, false, false⟩, ⟨.up, false, false, false⟩, ⟨.down, true, false, false⟩].map
          .key)).map (fun r => r.1.index == r.1.history.length) = some true := by
    decide +kernel
  obtain ⟨⟨s, all⟩, hr, hs⟩ := Option.map_eq_some_iff.1 hk
  simp only [Prod.mk.injEq, Bool.and_eq_true, Option.isNone_iff_eq_none, beq_iff_eq] at hs
  obtain ⟨⟨⟨ht, hb⟩, hi⟩, hm, hv, hc⟩ := hs
  obtain ⟨last, hd⟩ := Reached.start.run hr
  have hk : ∀ k ∈ [(⟨.up, false, false, false⟩ : Key), ⟨.up, false, false, false⟩,
      ⟨.down, true, false, false⟩], isHistoryKey k := by decide
  obtain ⟨s', hl, -, hd', -⟩ := draft_of_leads hd ht hb hi hk
  obtain ⟨all', hr'⟩ := hl
  rw [hr, Option.bind_some, hr'] at he
  obtain ⟨hm', hv', hc'⟩ := hd' (by simpa using he)
  exact ⟨s, s', ⟨all, hr⟩, ⟨all', hr'⟩, hm'.trans hm, hv'.trans hv, hc'.trans hc⟩

end Tether.Session
