import Tether.Proofs.Line.BigWord
import Tether.Proofs.Session.Parking
import Tether.Proofs.Session.TabCycle

/-! What a session asks for, and that nothing else is asked for: `requests_of_reached`. -/
namespace Tether.Session
open Text

/-- What a message asks for. With control, `c` and `d` leave the session where there is no input; the
enter key submits commands. -/
inductive Asks (s : Session) : Message → Request → Prop
  | leave {k : Key} (hc : k.ctrl) (hk : k.code = .char 'c' ∨ k.code = .char 'd')
      (hi : s.input.value = []) : Asks s (.key k) .quit
  | quit {k : Key} (hk : k.code = .enter) (hm : s.mode = .command)
      (hl : trimString s.input.string = "quit") : Asks s (.key k) .quit
  | edit {k : Key} (hk : k.code = .enter) (hm : s.mode = .command)
      (hl : trimString s.input.string = "edit") : Asks s (.key k) .edit

def Aborts (s : Session) : Message → Prop
  | .key k => s.input.editor.Aborts s.input.value k
  | _ => False

section Requests
variable {s s' : Session} {k : Key} {q : Request} {r : Session × List Request}

theorem requests_submit (s : Session) :
    s.submit.2 = if s.mode = .command then asked (trimString s.input.string) else [] := by
  by_cases hb : s.mode = .eval ∨ (trimString s.input.string).isEmpty
  · obtain ⟨history, t, he⟩ := submit_blank s hb
    rw [he]
    rcases hb with hm | hl
    · rw [if_neg (by simp [hm])]
    · rw [String.isEmpty_iff.1 hl]
      exact (ite_self _).symm
  · obtain ⟨hc, hl⟩ := not_or.1 hb
    have hm : s.mode = .command := Mode.eq_of_ne hc (b := .command) nofun
    obtain ⟨history, t, t', index, he⟩ := submit_command s hm hl
    rw [he, if_pos hm]

theorem asks_of_left (h : Asks (s.left k) (.key k) q) : Asks s (.key k) q := by
  obtain ⟨hm, hi⟩ := mode_input_left s k
  cases h with
  | leave hc hk hv => exact .leave hc hk (hi ▸ hv)
  | quit hk hs hl => exact .quit hk (hm ▸ hs) (hi ▸ hl)
  | edit hk hs hl => exact .edit hk (hm ▸ hs) (hi ▸ hl)

theorem requests_of_handled (h : Handled s k r) :
    r.2 = [] ∨ ∃ q, r.2 = [q] ∧ s.Asks (.key k) q := by
  cases h with
  | interrupt hc hk =>
    rw [interrupt]
    split
    next hi => exact .inr ⟨.quit, rfl, .leave hc (.inl hk) (List.isEmpty_iff.1 hi)⟩
    next => exact .inl rfl
  | quit hc hk hi => exact .inr ⟨.quit, rfl, .leave hc (.inr hk) hi⟩
  | submit hk =>
    rw [requests_submit, asked]
    split
    next hm =>
      split
      next hl => exact .inr ⟨.quit, rfl, .quit hk hm hl⟩
      next =>
        split
        next hl => exact .inr ⟨.edit, rfl, .edit hk hm hl⟩
        next => exact .inl rfl
    next => exact .inl rfl
  | _ => exact .inl rfl

theorem requests_of_press? (h : s.press? k = some r) :
    r.2 = [] ∨ ∃ q, r.2 = [q] ∧ s.Asks (.key k) q := by
  cases pressed_of_press? h with
  | cycle => exact .inl rfl
  | cancel => exact .inl rfl
  | handled hr => exact (requests_of_handled hr).imp_right fun ⟨q, hq, ha⟩ => ⟨q, hq, asks_of_left ha⟩

theorem requests_of_update? {m : Message} (h : s.update? m = some r) :
    r.2 = [] ∨ ∃ q, r.2 = [q] ∧ s.Asks m q := by
  cases m with
  | key k => exact requests_of_press? h
  | resize => exact .inl (Option.some.inj h ▸ rfl)
  | edited => exact .inl (Option.some.inj h ▸ rfl)

theorem update?_enter (hk : k.code = .enter) (hm : s.mode = .command) :
    ∃ s', s.update? (.key k) = some (s', asked (trimString s.input.string)) := by
  obtain ⟨hm', hi⟩ := mode_input_left s k
  have hq := requests_submit (s.left k)
  rw [hm', if_pos hm, hi] at hq
  refine ⟨(s.left k).submit.1, ?_⟩
  change s.press? k = _
  rw [press?_plain (.inr (.inr hk)), ← hq]
  simp [plain?, hk]

theorem Asks.update? {m : Message} (h : s.Asks m q) : ∃ s', s.update? m = some (s', [q]) := by
  cases h with
  | @leave k hc hk hi =>
    obtain ⟨-, hv⟩ := mode_input_left s k
    rw [← hv] at hi
    refine ⟨s.left k, ?_⟩
    change s.press? k = _
    rw [press?_left (by rcases hk with hk | hk <;> simp [isAltArrow, hk])
      (by rcases hk with hk | hk <;> simp [hk]), if_pos hc]
    rcases hk with hk | hk
    · simp [control?, hk, interrupt, hi]
    · simp [control?, hk, hi]
  | quit hk hm hl => simpa [asked, hl] using update?_enter hk hm
  | edit hk hm hl => simpa [asked, hl] using update?_enter hk hm

end Requests

/-- While offers are gone through, one of them stands in the place of the word of a settled session. -/
def Cycling (s : Session) : Prop := s.tab.isSome → ∃ s₀ i, s₀.Settled ∧ Selected s₀ i s

section Cycling
variable {s : Session} {k : Key} {r : Session × List Request}

theorem Settled.cycling (h : s.Settled) : s.Cycling := by
  intro ht
  rw [h.tab] at ht
  cases ht

theorem Selected.resize {s₀ : Session} {i : Nat} (h : Selected s₀ i s) (width : Nat) :
    Selected { s₀ with width := width } i { s with width := width } :=
  ⟨congrArg (fun s : Session => { s with width := width }) h.frame, h.cache, h.cut, h.shown⟩

theorem cycling_press?_tab (hs : s.Sound) (hc : s.Cycling) (hk : isTabKey k) :
    ∃ s', s.press? k = some (s', []) ∧ s'.Cycling := by
  cases ht : s.tab with
  | some t =>
    have hs : s.tab.isSome := by rw [ht]; rfl
    obtain ⟨s₀, i, h₀, hi⟩ := hc hs
    obtain ⟨s', hn, h'⟩ := hi.cycle? h₀ (k.code = .tab)
    refine ⟨s', ?_, fun _ => ⟨s₀, _, h₀, h'⟩⟩
    rw [press?_cycle hs hk, hn, Option.map_some]
  | none =>
    have h₀ := settled_left hs k
    rw [press?_startTab ht hk]
    by_cases hn : (s.left k).offers = []
    · refine ⟨s.left k, ?_, h₀.cycling⟩
      rw [startTab?, hn]
      rfl
    · obtain ⟨s', he, h'⟩ := selected_startTab? h₀ hn (k.code = .tab)
      exact ⟨s', by rw [he, Option.map_some], fun _ => ⟨_, _, h₀, h'⟩⟩

theorem cycling_press? (hs : s.Sound) (hc : s.Cycling) (hp : s.press? k = some r) : r.1.Cycling := by
  by_cases hk : isTabKey k
  · obtain ⟨s', hp', h'⟩ := cycling_press?_tab hs hc hk
    rw [hp'] at hp
    cases hp
    exact h'
  · simp only [isTabKey, Bool.or_eq_true, decide_eq_true_eq] at hk
    cases pressed_of_press? hp with
    | cycle _ ht => exact absurd ht hk
    | cancel => exact (settled_cancelTab hs).cycling
    | handled hr =>
      rcases settled_of_handled (settled_left hs k) hr with h | ⟨-, ht, -⟩
      · exact h.cycling
      · exact absurd ht hk

theorem cycling_of_reached {s₀ : Session} {requests : List Request} (h₀ : s₀.Settled)
    (h : Reached s₀ s requests) : s.Cycling := by
  induction h with
  | start => exact h₀.cycling
  | key h hu ih => exact cycling_press? (kept_of_reached h₀ h).sound ih hu
  | @resize _ _ _ _ width _ hu ih =>
    cases hu
    intro ht
    obtain ⟨s₁, i, h₁, hi⟩ := ih ht
    exact ⟨{ s₁ with width := width }, i, h₁.of_bare rfl, hi.resize width⟩
  | edited h he hu =>
    cases hu
    have hk := kept_of_reached h₀ h
    exact (settled_finishEdit (hk.sound.settled (hk.edit he)) _).cycling

theorem edit?_of_plain? (hk : ¬ isTabKey k) (h : s.plain? k = none) : s.edit? k = none := by
  have he {p : Prop} [Decidable p] {r : Session × List Request}
      (h : (if p then some r else (s.edit? k).map (·, [])) = none) : s.edit? k = none := by
    split at h
    · cases h
    · exact Option.map_eq_none_iff.1 h
  simp only [isTabKey, Bool.or_eq_true, decide_eq_true_eq, not_or] at hk
  rw [plain?] at h
  dsimp only at h
  split at h
  next => cases h
  next => cases h
  next ht => exact absurd ht hk.1
  next ht => exact absurd ht hk.2
  next => cases h
  next => exact he h
  next => exact he h
  next => exact he h
  next => exact Option.map_eq_none_iff.1 h

theorem edit?_eq_none (h : isPosition s.input.value s.input.cursor) :
    s.edit? k = none ↔ s.input.editor.Aborts s.input.value k := by
  rw [← Input.press?_eq_none h, edit?, Option.bind_eq_bind, Option.bind_eq_none_iff]
  constructor
  · intro hn
    by_contra hp
    obtain ⟨r, hr⟩ := Option.ne_none_iff_exists'.1 hp
    cases hn r hr
  · intro hp r hr
    rw [hp] at hr
    cases hr

theorem press?_eq_none (hs : s.Sound) (hc : s.Cycling) :
    s.press? k = none ↔ s.input.editor.Aborts s.input.value k := by
  have hi := (mode_input_left s k).2
  have he := edit?_eq_none (k := k) (hi.symm ▸ hs.cursor : isPosition (s.left k).input.value
    (s.left k).input.cursor)
  rw [hi] at he
  constructor
  · intro hp
    rw [← he]
    cases ha : isAltArrow k with
    | true =>
      rw [press?_altArrow ha] at hp
      cases hp
    | false =>
      have hk : ¬ isTabKey k := by
        intro hk
        obtain ⟨s', hn, -⟩ := cycling_press?_tab hs hc hk
        rw [hn] at hp
        cases hp
      have ht : s.tab.isSome → k.code ≠ .tab ∧ k.code ≠ .backTab ∧ k.code ≠ .escape := by
        intro ht
        simp only [isTabKey, Bool.or_eq_true, decide_eq_true_eq, not_or] at hk
        refine ⟨hk.1, hk.2, fun hx => ?_⟩
        rw [press?_cancel ht hx] at hp
        cases hp
      rw [press?_left ha ht, Option.or_eq_none_iff] at hp
      exact edit?_of_plain? hk hp.2
  · intro ha
    have hk := ha.1
    rw [← he] at ha
    simp only [Line.Editor.cutsBigWord, Bool.and_eq_true, decide_eq_true_eq] at hk
    rw [press?_left (by simp [isAltArrow, hk]) (by simp [hk])]
    simp [control?, plain?, hk, ha]

end Cycling

/-- No message asks for more than one thing: to leave the session where there is no input or with
the command for it, or to run the editor with the command for it. Nothing is asked for by any other
one, but that a key which would cut a character in two aborts. -/
theorem requests_of_reached {d : Document} {h : History} {name : String} {width : Nat}
    {matcher : Complete.Matcher} {s : Session} {requests : List Request}
    (hr : Reached (initial d h name width matcher) s requests) (m : Message) :
    (∀ r, s.update? m = some r → r.2.length ≤ 1) ∧
      (∀ q, (∃ s', s.update? m = some (s', [q])) ↔ s.Asks m q) ∧
      ((∃ s', s.update? m = some (s', [])) ↔ (∀ q, ¬ s.Asks m q) ∧ ¬ s.Aborts m) ∧
      (s.update? m = none ↔ s.Aborts m) := by
  have hs := hr.sound
  have hc := cycling_of_reached (settled_initial d h name width matcher) hr
  have hn : s.update? m = none ↔ s.Aborts m := by
    cases m with
    | key k => exact press?_eq_none hs hc
    | resize => exact iff_of_false nofun id
    | edited => exact iff_of_false nofun id
  refine ⟨fun r hu => ?_, fun q => ⟨?_, Asks.update?⟩, ⟨?_, ?_⟩, hn⟩
  · rcases requests_of_update? hu with hq | ⟨q, hq, -⟩
    all_goals simp [hq]
  · rintro ⟨s', hu⟩
    obtain hq | ⟨q', hq, ha⟩ := requests_of_update? hu
    · cases hq
    · cases hq
      exact ha
  · rintro ⟨s', hu⟩
    refine ⟨fun q hq => ?_, fun ha => ?_⟩
    · obtain ⟨s'', hu'⟩ := hq.update?
      rw [hu] at hu'
      cases hu'
    · rw [hn.2 ha] at hu
      cases hu
  · rintro ⟨hq, ha⟩
    obtain ⟨⟨s', requests⟩, hu⟩ := Option.ne_none_iff_exists'.1 (mt hn.1 ha)
    obtain rfl | ⟨q, -, hx⟩ := requests_of_update? hu
    · exact ⟨s', hu⟩
    · exact absurd hx (hq q)

/-- The command to leave, found among those of the history, and a key that leaves it alone. -/
theorem requests_of_reached_browsing : ∃ s,
    Leads (new ⟨[]⟩ ⟨[⟨.command, "quit"⟩], none⟩ "t" 80) [⟨.up, false, true, false⟩] s ∧
    s.browse.isSome ∧ s.input.value = "quit".toList ∧
    (∃ s', s.update? (.key ⟨.enter, false, false, false⟩) = some (s', [.quit])) ∧
    ∃ s', s.update? (.key ⟨.char 'd', true, false, false⟩) = some (s', []) := by
  have hk : ((new ⟨[]⟩ ⟨[⟨.command, "quit"⟩], none⟩ "t" 80).run?
      ([⟨.up, false, true, false⟩].map .key)).map
      (fun r => (r.1.browse.isSome, r.1.mode, r.1.input.value)) =
        some (true, .command, "quit".toList) := by
    decide +kernel
  obtain ⟨⟨s, all⟩, hr, hs⟩ := Option.map_eq_some_iff.1 hk
  simp only [Prod.mk.injEq] at hs
  obtain ⟨hb, hm, hv⟩ := hs
  obtain ⟨last, hd⟩ := Reached.start.run hr
  have hl : trimString s.input.string = "quit" := by
    rw [Input.string, hv]
    decide +kernel
  refine ⟨s, ⟨all, hr⟩, hb, hv, ((requests_of_reached hd _).2.1 .quit).2 (.quit rfl hm hl),
    (requests_of_reached hd _).2.2.1.2 ⟨?_, ?_⟩⟩
  · rintro q (⟨-, -, hi⟩ | ⟨hk, -⟩ | ⟨hk, -⟩)
    · rw [hv] at hi
      cases hi
    · cases hk
    · cases hk
  · rintro ⟨hk, -⟩
    cases hk

/-- The session aborts although nothing was asked for, with the input that was not sent. -/
theorem requests_of_reached_no_break : ∃ s,
    Leads (new ⟨[]⟩ ⟨[], none⟩ "t" 80) [.char '1', .char '\u00A0', .char '2'] s ∧
    s.input.value = ['1', '\u00A0', '2'] ∧
    (∀ q, ¬ s.Asks (.key ⟨.char 'w', true, false, false⟩) q) ∧
    s.update? (.key ⟨.char 'w', true, false, false⟩) = none := by
  have hk : ((new ⟨[]⟩ ⟨[], none⟩ "t" 80).run?
      ([.char '1', .char '\u00A0', .char '2'].map .key)).map
      (fun r => (r.1.input.value, (r.1.update? (.key ⟨.char 'w', true, false, false⟩)).isNone)) =
        some (['1', '\u00A0', '2'], true) := by
    decide +kernel
  obtain ⟨⟨s, all⟩, hr, hs⟩ := Option.map_eq_some_iff.1 hk
  obtain ⟨hv, hn⟩ := Prod.mk.inj hs
  refine ⟨s, ⟨all, hr⟩, hv, ?_, Option.isNone_iff_eq_none.1 hn⟩
  rintro q (⟨-, hk, -⟩ | ⟨hk, -⟩ | ⟨hk, -⟩)
  · rcases hk with hk | hk <;> cases hk
  · cases hk
  · cases hk

end Tether.Session
