import Tether.Proofs.Session.CommandBrowse
import Tether.Proofs.Session.Offers

/-! Going around the offers for a word, and back: `cycle_of_leads`. -/
namespace Tether.Session
open Complete Text

theorem refresh_offered {s : Session} (h : s.Settled) (hs : s.Stocked) (hn : s.offers ≠ [])
    (call : Option ActiveCall) {cache : Signature.Cache} (hc : cache.Exact) :
    { ({ s with call := call, signatures := cache }.refresh false) with
      signatures := s.signatures } = s := by
  have hf := h.sound.fresh h.tab
  have hm : s.call = (callAt s.document cache s.mode s.input).1 :=
    hf.call.trans (callAt_exact hc s.document s.mode s.input).1.symm
  have ho : s.offers = s.inputOffers.2 := hf.offers.resolve_left hn
  have hd : s.candidates = s.inputOffers.1 := (hs h.tab).resolve_left hn
  calc
    _ = { s with
          candidates := s.inputOffers.1, offers := s.inputOffers.2
          word := ((wordAt s.input.value s.input.cursor).start,
            (wordAt s.input.value s.input.cursor).stop)
          call := (callAt s.document cache s.mode s.input).1 } := rfl
    _ = s := by rw [← hd, ← ho, ← hf.word, ← hm]

/-- The number of the offer after another one, or of the one before, around a list. -/
def turn (n i : Nat) (forward : Bool) : Nat := if forward then (i + 1) % n else (i + n - 1) % n

def firstSelected (n : Nat) (forward : Bool) : Nat := if forward then 0 else n - 1

def selecting (s : Session) (i : Nat) (input : Input) (call : Option ActiveCall)
    (cache : Signature.Cache) : Session :=
  { s with
    tab := some ⟨s.input.snapshot, s.word.1, s.word.2, i⟩, input := input, call := call
    signatures := cache }

/-- The offer `i` of a session `s₀` stands in the place of its word. -/
structure Selected (s₀ : Session) (i : Nat) (s : Session) : Prop where
  frame : s = s₀.selecting i s.input s.call s.signatures
  cache : s.signatures.Exact
  cut : s.input.editor.cut = s₀.input.editor.cut
  shown : ∃ x a w d, s₀.offers[i]? = some x ∧ s₀.input.value = a ++ (w ++ d) ∧
    bytes a = s₀.word.1 ∧ bytes (a ++ w) = s₀.word.2 ∧
    s.input.value = a ++ x.name.toList ++ d ∧ s.input.cursor = bytes (a ++ x.name.toList)

section Selected
variable {s₀ s : Session} {i : Nat}

theorem selected_showSelected? (h₀ : s₀.Settled) (hi : i < s₀.offers.length) (input : Input)
    (call : Option ActiveCall) {cache : Signature.Cache} (hc : cache.Exact)
    (hcut : input.editor.cut = s₀.input.editor.cut) :
    ∃ s, (s₀.selecting i input call cache).showSelected? = some s ∧ Selected s₀ i s := by
  obtain ⟨a, d, hv, ha, hs, -, -⟩ := exists_wordAt s₀.input.value s₀.input.cursor
  generalize (wordAt s₀.input.value s₀.input.cursor).text = w at hv hs
  have hw := (h₀.sound.fresh h₀.tab).word
  have h1 : s₀.word.1 = bytes a := by rw [hw, ha]
  have h2 : s₀.word.2 = bytes a + bytes w := by rw [hw, ha, ← hs]
  have hx : s₀.offers[i]? = some s₀.offers[i] := List.getElem?_eq_getElem hi
  generalize s₀.offers[i] = x at hx
  have hsp : splice? s₀.input.value s₀.word.1 s₀.word.2 x.name.toList =
      some (a ++ x.name.toList ++ d) := by
    rw [hv, h1, h2, splice?_append]
  have hsel : (s₀.selecting i input call cache).showSelected? =
      (splice? s₀.input.value s₀.word.1 s₀.word.2 x.name.toList).map fun text =>
        (s₀.selecting i (input.set text (s₀.word.1 + bytes x.name.toList)) call cache).refreshCall := by
    simp only [showSelected?, selecting, hx]
    rfl
  rw [hsel, hsp, Option.map_some, h1, ← bytes_append]
  have hp := isPosition_append (a ++ x.name.toList) d
  refine ⟨_, rfl, rfl, (callAt_exact hc _ _ _).2, hcut, x, a, w, d, hx, hv, h1.symm, ?_, rfl, ?_⟩
  · rw [bytes_append, h2]
  · exact Input.cursor_set hp

theorem turn_lt {n : Nat} (hi : i < n) (forward : Bool) : turn n i forward < n := by
  rw [turn]
  split
  · exact Nat.mod_lt _ (by omega)
  · exact Nat.mod_lt _ (by omega)

theorem Selected.lt (h : Selected s₀ i s) : i < s₀.offers.length := by
  obtain ⟨x, -, -, -, hx, -⟩ := h.shown
  exact (List.getElem?_eq_some_iff.1 hx).1

theorem Selected.cycle? (h₀ : s₀.Settled) (h : Selected s₀ i s) (forward : Bool) :
    ∃ s', s.cycle? forward = some s' ∧ Selected s₀ (turn s₀.offers.length i forward) s' := by
  have hn : s₀.offers.isEmpty = false := by
    rw [List.isEmpty_eq_false_iff, ← List.length_pos_iff]
    exact Nat.lt_of_le_of_lt (Nat.zero_le i) h.lt
  have hc : s.cycle? forward = (s₀.selecting (turn s₀.offers.length i forward) s.input s.call
      s.signatures).showSelected? := by
    rw [h.frame, Session.cycle?]
    change (if s₀.offers.isEmpty = true then _ else _) = _
    rw [hn]
    rfl
  rw [hc]
  exact selected_showSelected? h₀ (turn_lt h.lt forward) s.input s.call h.cache h.cut

theorem selected_startTab? (h₀ : s₀.Settled) (hn : s₀.offers ≠ []) (forward : Bool) :
    ∃ s, s₀.startTab? forward = some s ∧ Selected s₀ (firstSelected s₀.offers.length forward) s := by
  have hl := List.length_pos_iff.2 hn
  have hi : firstSelected s₀.offers.length forward < s₀.offers.length := by
    rw [firstSelected]
    split <;> omega
  have hs : s₀.startTab? forward = (s₀.selecting (firstSelected s₀.offers.length forward) s₀.input
      s₀.call s₀.signatures).showSelected? := by
    rw [startTab?, if_neg (mt List.isEmpty_iff.1 hn)]
    rfl
  rw [hs]
  exact selected_showSelected? h₀ hi s₀.input s₀.call h₀.ready.signatures rfl

theorem Selected.cancelTab (h₀ : s₀.Settled) (hs : s₀.Stocked) (hn : s₀.offers ≠ [])
    (h : Selected s₀ i s) : { s.cancelTab with signatures := s₀.signatures } = s₀ := by
  have hi := Input.restore_snapshot h₀.ready.cursor h.cut
  have hc : s.cancelTab = { s₀ with
      tab := none, input := s.input.restore s₀.input.snapshot, call := s.call
      signatures := s.signatures }.refresh false := by
    rw [h.frame]
    rfl
  rw [hc, hi, ← h₀.tab]
  exact refresh_offered h₀ hs hn s.call h.cache

end Selected

def isTabKey (k : Key) : Bool := k.code = .tab || k.code = .backTab

section Keys
variable {s : Session} {k : Key}

theorem press?_startTab (ht : s.tab = none) (hk : isTabKey k) :
    s.press? k = ((s.left k).startTab? (k.code = .tab)).map (·, []) := by
  simp only [isTabKey, Bool.or_eq_true, decide_eq_true_eq] at hk
  rw [press?_left (by rcases hk with hk | hk <;> simp [isAltArrow, hk]) (by simp [ht])]
  rcases hk with hk | hk
  all_goals simp [control?, plain?, hk]

theorem press?_cycle (ht : s.tab.isSome) (hk : isTabKey k) :
    s.press? k = (s.cycle? (k.code = .tab)).map (·, []) := by
  obtain ⟨code, ctrl, alt, shift⟩ := k
  simp only [isTabKey, Bool.or_eq_true, decide_eq_true_eq] at hk
  rcases hk with rfl | rfl
  · simp [press?, ht]
  · simp [press?, ht]

theorem press?_cancel (ht : s.tab.isSome) (hk : k.code = .escape) :
    s.press? k = some (s.cancelTab, []) := by
  simp [press?, ht, hk]

end Keys

def turns (keys : List Key) : Int :=
  (keys.countP (·.code = .tab) : Int) - keys.countP (·.code = .backTab)

theorem turns_cons (k : Key) (keys : List Key) (hk : isTabKey k) :
    turns (k :: keys) = (if k.code = .tab then 1 else -1) + turns keys := by
  simp only [isTabKey, Bool.or_eq_true, decide_eq_true_eq] at hk
  rcases hk with hk | hk
  all_goals
    simp only [turns, hk, reduceCtorEq, decide_true, decide_false, Bool.false_eq_true,
      not_false_eq_true, List.countP_cons_of_pos, List.countP_cons_of_neg, Nat.cast_add,
      Nat.cast_one, if_true, if_false]
    omega

theorem turn_eq {n i : Nat} (hi : i < n) (k : Key) :
    (turn n i (k.code = .tab) : Int) = (i + if k.code = .tab then 1 else -1) % n := by
  rw [turn]
  by_cases hk : k.code = .tab
  · simp [hk]
  · have hs : ((i + n - 1 : Nat) : Int) = (i + -1) + n := by omega
    rw [decide_eq_false hk, if_neg Bool.false_ne_true, if_neg hk, Int.natCast_emod, hs,
      Int.add_emod_right]

theorem Selected.tab_isSome {s₀ s : Session} {i : Nat} (h : Selected s₀ i s) : s.tab.isSome := by
  rw [h.frame]
  rfl

theorem Selected.leads {s₀ s : Session} {i : Nat} (h₀ : s₀.Settled) (h : Selected s₀ i s)
    {keys : List Key} (hk : ∀ k ∈ keys, isTabKey k) :
    ∃ s' j, Leads s keys s' ∧ Selected s₀ j s' ∧
      (j : Int) = (i + turns keys) % s₀.offers.length := by
  induction keys generalizing s i with
  | nil =>
    refine ⟨s, i, leads_nil.2 rfl, h, ?_⟩
    have hl := h.lt
    rw [show (i : Int) + turns [] = i from by simp [turns]]
    exact (Int.emod_eq_of_lt (by omega) (by omega)).symm
  | cons k keys ih =>
    obtain ⟨hk, hks⟩ := List.forall_mem_cons.1 hk
    obtain ⟨s₁, hc, h₁⟩ := h.cycle? h₀ (k.code = .tab)
    obtain ⟨s', j, hl, h', hj⟩ := ih h₁ hks
    have hp : s.press? k = some (s₁, []) := by rw [press?_cycle h.tab_isSome hk, hc, Option.map_some]
    refine ⟨s', j, leads_cons.2 ⟨_, hp, hl⟩, h', ?_⟩
    calc
      (j : Int) = ((i + if k.code = .tab then 1 else -1) % s₀.offers.length + turns keys) %
          s₀.offers.length := by rw [hj, turn_eq h.lt]
      _ = (i + turns (k :: keys)) % s₀.offers.length := by
        rw [Int.emod_add_emod, turns_cons k keys hk, Int.add_assoc]

/-- Around the offers every key goes one further or one back, with the offer in the place of the
word, and the escape key leads back to the session as it was, but for its tables of signatures. -/
theorem cycle_of_leads {d : Document} {h : History} {name : String} {width : Nat}
    {matcher : Complete.Matcher} {s : Session} {requests : List Request}
    (hr : Reached (initial d h name width matcher) s requests) (ht : s.tab = none)
    (hb : s.browse = none) (hn : s.offers ≠ []) {k : Key} {keys : List Key} (hk : isTabKey k)
    (hks : ∀ k ∈ keys, isTabKey k) :
    ∃ s' t x a w d, Leads s (k :: keys) s' ∧ s'.tab = some t ∧
      (t.selected : Int) = ((if k.code = .tab then 0 else (s.offers.length : Int) - 1) +
        keys.countP (·.code = .tab) - keys.countP (·.code = .backTab)) % s.offers.length ∧
      s.offers[t.selected]? = some x ∧
      s.input.value = a ++ (w ++ d) ∧ bytes a = s.word.1 ∧ bytes (a ++ w) = s.word.2 ∧
      s'.input.value = a ++ x.name.toList ++ d ∧ s'.input.cursor = bytes (a ++ x.name.toList) ∧
      ∀ k', k'.code = .escape → ∃ s'', s'.press? k' = some (s'', []) ∧
        { s'' with signatures := s.signatures } = s := by
  have h₀ := hr.sound.settled ht
  obtain ⟨s₁, hs, h₁⟩ := selected_startTab? h₀ hn (k.code = .tab)
  obtain ⟨s', j, hl, h', hj⟩ := h₁.leads h₀ hks
  have hp : s.press? k = some (s₁, []) := by
    rw [press?_startTab ht hk, left_of_none ht hb, hs, Option.map_some]
  obtain ⟨x, a, w, d, hx, hv, ha, hw, hv', hc'⟩ := h'.shown
  refine ⟨s', ⟨s.input.snapshot, s.word.1, s.word.2, j⟩, x, a, w, d, leads_cons.2 ⟨_, hp, hl⟩, ?_, ?_,
    hx, hv, ha, hw, hv', hc', fun k' hk' => ⟨_, press?_cancel h'.tab_isSome hk', ?_⟩⟩
  · rw [h'.frame]
    rfl
  · have hl := List.length_pos_iff.2 hn
    have hf : (firstSelected s.offers.length (k.code = .tab) : Int) =
        if k.code = .tab then 0 else (s.offers.length : Int) - 1 := by
      rw [firstSelected]
      by_cases hk : k.code = .tab
      · simp [hk]
      · rw [decide_eq_false hk, if_neg Bool.false_ne_true, if_neg hk]
        omega
    change (j : Int) = _
    rw [hj, hf, turns, ← add_sub_assoc]
  · exact h'.cancelTab h₀ (stocked_of_reached hr) hn

/-- An entry of the history with two names after its path: from the last one around to itself, and
back to the entry. -/
theorem cycle_of_leads_path : ∃ s s' s'' t,
    Leads (new ⟨[.block "n" [.leaf "a" [] ⟨"1", .int 1⟩, .leaf "bcd" [] ⟨"1", .int 1⟩]]⟩
      ⟨[⟨.eval, "n."⟩], none⟩ "t" 80) [⟨.up, false, false, false⟩] s ∧
    s.offers.map Match.name = ["a", "bcd"] ∧
    Leads s [⟨.backTab, false, false, true⟩, ⟨.tab, false, false, false⟩,
      ⟨.tab, false, false, false⟩] s' ∧
    s'.tab = some t ∧ t.selected = 1 ∧ s'.input.value = ['n', '.', 'b', 'c', 'd'] ∧
    s'.input.cursor = 5 ∧ s'.press? ⟨.escape, false, false, false⟩ = some (s'', []) ∧
    { s'' with signatures := s.signatures } = s := by
  have hk : ((new ⟨[.block "n" [.leaf "a" [] ⟨"1", .int 1⟩, .leaf "bcd" [] ⟨"1", .int 1⟩]]⟩
      ⟨[⟨.eval, "n."⟩], none⟩ "t" 80).run? ([⟨.up, false, false, false⟩].map .key)).map
      (fun r => (r.1.tab.isNone && r.1.browse.isNone, r.1.offers.map Match.name)) =
        some (true, ["a", "bcd"]) := by
    cbv
  have hi : (((new ⟨[.block "n" [.leaf "a" [] ⟨"1", .int 1⟩, .leaf "bcd" [] ⟨"1", .int 1⟩]]⟩
      ⟨[⟨.eval, "n."⟩], none⟩ "t" 80).run? ([⟨.up, false, false, false⟩].map .key)).bind fun r =>
      r.1.run? ([⟨.backTab, false, false, true⟩, ⟨.tab, false, false, false⟩,
        ⟨.tab, false, false, false⟩].map .key)).map (fun r => (r.1.input.value, r.1.input.cursor)) =
        some (['n', '.', 'b', 'c', 'd'], 5) := by
    cbv
  obtain ⟨⟨s, all⟩, hr, hs⟩ := Option.map_eq_some_iff.1 hk
  simp only [Prod.mk.injEq, Bool.and_eq_true, Option.isNone_iff_eq_none] at hs
  obtain ⟨⟨ht, hb⟩, ho⟩ := hs
  obtain ⟨last, hd⟩ := Reached.start.run hr
  have hl : s.offers.length = 2 := by rw [← List.length_map, ho]; rfl
  have hn : s.offers ≠ [] := by rw [← List.length_pos_iff, hl]; omega
  have hk : isTabKey ⟨.backTab, false, false, true⟩ := rfl
  have hks : ∀ k ∈ [(⟨.tab, false, false, false⟩ : Key), ⟨.tab, false, false, false⟩],
      isTabKey k := by decide
  obtain ⟨s', t, -, -, -, -, ⟨all', hr'⟩, ht', hj, -, -, -, -, -, -, hesc⟩ :=
    cycle_of_leads hd ht hb hn hk hks
  obtain ⟨s'', hp, he⟩ := hesc ⟨.escape, false, false, false⟩ rfl
  rw [hl] at hj
  rw [hr, Option.bind_some, hr'] at hi
  obtain ⟨hv, hc⟩ := Prod.mk.inj (Option.some.inj hi)
  exact ⟨s, s', s'', t, ⟨all, hr⟩, ho, ⟨all', hr'⟩, ht', by simpa using hj, hv, hc, hp, he⟩

end Tether.Session
