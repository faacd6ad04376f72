import Tether.Proofs.Session.Handlers
import Tether.Startup.Launch

/-! What holds of every session that messages lead to: `sound_of_reached`. -/
namespace Tether.Session
open Text

/-- The sessions that messages make of a first one, each with the requests of the last message. An
outcome of the editor comes only right after a request for it. -/
inductive Reached (s₀ : Session) : Session → List Request → Prop
  | start : Reached s₀ s₀ []
  | key {s s' : Session} {requests requests' : List Request} {k : Key} (h : Reached s₀ s requests)
      (hu : s.update? (.key k) = some (s', requests')) : Reached s₀ s' requests'
  | resize {s s' : Session} {requests requests' : List Request} {width : Nat}
      (h : Reached s₀ s requests) (hu : s.update? (.resize width) = some (s', requests')) :
      Reached s₀ s' requests'
  | edited {s s' : Session} {requests requests' : List Request}
      {result : Except Failure EditOutcome} (h : Reached s₀ s requests) (he : .edit ∈ requests)
      (hu : s.update? (.edited result) = some (s', requests')) : Reached s₀ s' requests'

theorem settled_initial (d : Document) (h : History) (name : String) (width : Nat)
    (matcher : Complete.Matcher) : (initial d h name width matcher).Settled := by
  have hb : (initial d h name width matcher).Browsing := ⟨Nat.le_refl _, by simp [initial]⟩
  exact ⟨⟨Complete.Signature.Cache.exact_empty, isPosition_zero [], nofun, hb, nofun,
    fun _ => ⟨rfl, rfl, .inl rfl⟩⟩, rfl⟩

theorem settled_finishEdit {s : Session} (h : s.Settled) (result : Except Failure EditOutcome) :
    (s.finishEdit result).Settled := by
  have hs (s' : Session) (hr : s'.Ready) (hb : s'.Browsing) : (s'.refresh false).Settled :=
    settled_refresh hr hb false
  have hr := h.ready
  have hb := h.sound.browsing
  unfold finishEdit
  dsimp only
  split
  all_goals exact hs _ ⟨hr.signatures, hr.cursor, hr.tab⟩ ⟨hb.index, hb.live⟩

theorem kept_of_reached {s₀ s : Session} {requests : List Request} (h₀ : s₀.Settled)
    (h : Reached s₀ s requests) : Kept s requests := by
  induction h with
  | start => exact h₀.kept []
  | key h hu ih => exact kept_press? ih.sound hu
  | resize h hu ih =>
    cases hu
    exact Sound.kept (ih.sound.of_bare rfl)
  | edited h he hu ih =>
    cases hu
    exact (settled_finishEdit (ih.sound.settled (ih.edit he)) _).kept []

theorem Reached.sound {d : Document} {h : History} {name : String} {width : Nat}
    {matcher : Complete.Matcher} {s : Session} {requests : List Request}
    (hr : Reached (initial d h name width matcher) s requests) : s.Sound :=
  (kept_of_reached (settled_initial d h name width matcher) hr).sound

theorem Reached.run {s₀ s s' : Session} {requests all : List Request} {keys : List Key}
    (h : Reached s₀ s requests) (hr : s.run? (keys.map .key) = some (s', all)) :
    ∃ last, Reached s₀ s' last := by
  induction keys generalizing s requests all with
  | nil =>
    cases hr
    exact ⟨requests, h⟩
  | cons k keys ih =>
    obtain ⟨⟨s₁, first⟩, hu, hr⟩ := Option.bind_eq_some_iff.1 hr
    obtain ⟨⟨s₂, rest⟩, hk, hr⟩ := Option.bind_eq_some_iff.1 hr
    cases hr
    exact ih (h.key hu) hk

def Leads (s₀ : Session) (keys : List Key) (s : Session) : Prop :=
  ∃ requests, s₀.run? (keys.map .key) = some (s, requests)

section Leads
variable {s₀ s s' : Session} {keys : List Key} {k : Key}

theorem leads_nil : Leads s₀ [] s ↔ s₀ = s := by
  constructor
  · rintro ⟨requests, hr⟩
    cases hr
    rfl
  · rintro rfl
    exact ⟨[], rfl⟩

theorem leads_cons :
    Leads s₀ (k :: keys) s' ↔ ∃ r, s₀.press? k = some r ∧ Leads r.1 keys s' := by
  constructor
  · rintro ⟨requests, hr⟩
    obtain ⟨r, hp, hr⟩ := Option.bind_eq_some_iff.1 hr
    obtain ⟨⟨t, more⟩, hk, hr⟩ := Option.bind_eq_some_iff.1 hr
    cases hr
    exact ⟨r, hp, more, hk⟩
  · rintro ⟨r, hp, more, hk⟩
    refine ⟨r.2 ++ more, ?_⟩
    rw [List.map_cons, run?]
    change (s₀.press? k).bind _ = _
    rw [hp, Option.bind_some]
    change (r.1.run? (keys.map .key)).bind _ = _
    rw [hk]
    rfl

theorem leads_concat :
    Leads s₀ (keys ++ [k]) s' ↔ ∃ s r, Leads s₀ keys s ∧ s.press? k = some r ∧ r.1 = s' := by
  induction keys generalizing s₀ with
  | nil =>
    rw [List.nil_append, leads_cons]
    simp only [leads_nil]
    simp
  | cons m ms ih =>
    rw [List.cons_append, leads_cons]
    simp only [leads_cons, ih]
    tauto

/-- Keys that can all be pressed wherever `P` holds, and keep it, can be pressed one after the
other. -/
theorem exists_leads {P : Session → Prop} (h : P s)
    (hk : ∀ k ∈ keys, ∀ t, P t → ∃ r, t.press? k = some r ∧ P r.1) :
    ∃ s', Leads s keys s' ∧ P s' := by
  induction keys generalizing s with
  | nil => exact ⟨s, leads_nil.2 rfl, h⟩
  | cons k ks ih =>
    obtain ⟨hk, hks⟩ := List.forall_mem_cons.1 hk
    obtain ⟨r, hp, hr⟩ := hk s h
    obtain ⟨s', hl, h'⟩ := ih hr hks
    exact ⟨s', leads_cons.2 ⟨r, hp, hl⟩, h'⟩

end Leads

theorem sound_of_reached {d : Document} {h : History} {name : String} {width : Nat}
    {matcher : Complete.Matcher} {s : Session} {requests : List Request}
    (hr : Reached (initial d h name width matcher) s requests) :
    s.Sound ∧ s.input.cursor ≤ bytes s.input.value :=
  ⟨hr.sound, le_bytes_of_isPosition hr.sound.cursor⟩

/-- The only entry of the history is shown, and the only offer for it. -/
theorem sound_of_reached_tab : ∃ s requests,
    Reached (new ⟨[.block "n" [.leaf "a" [] ⟨"1", .int 1⟩]]⟩ ⟨[⟨.eval, "n."⟩], none⟩ "t" 80) s
      requests ∧
    s.tab.isSome ∧ s.live.isSome ∧ s.Sound ∧ s.input.cursor ≤ bytes s.input.value := by
  have hk : ((new ⟨[.block "n" [.leaf "a" [] ⟨"1", .int 1⟩]]⟩ ⟨[⟨.eval, "n."⟩], none⟩ "t" 80).run?
      ([⟨.up, false, false, false⟩, ⟨.tab, false, false, false⟩].map .key)).map
      (fun r => (r.1.tab.isSome, r.1.live.isSome)) = some (true, true) := by
    cbv
  obtain ⟨⟨s, all⟩, hr, hs⟩ := Option.map_eq_some_iff.1 hk
  obtain ⟨ht, hl⟩ := Prod.mk.inj hs
  obtain ⟨last, hd⟩ := Reached.start.run hr
  exact ⟨s, last, hd, ht, hl, sound_of_reached hd⟩

end Tether.Session
