import Tether.Editing.Loop
import Tether.Proofs.Document.RoundTrip

/-! What the editor finds, what is told and how an edit ends, round by round: `editLoop_follows`. -/
namespace Tether
open Text (Blank)

def Launch.left? (text : String) : Launch → Option String
  | .writes content => some content
  | .leaves => some text
  | .garbles | .fails _ => none

def Launch.failure? : Launch → Option String
  | .fails cause => some cause
  | .garbles => some "stream did not contain valid UTF-8"
  | .writes _ | .leaves => none

namespace EditRun

def textAfter (text : String) : List Launch → Nat → Option String
  | _, 0 => some text
  | [], _ + 1 => none
  | l :: ls, k + 1 => (l.left? text).bind fun t => textAfter t ls k

@[simp] theorem textAfter_zero (text : String) (launches : List Launch) :
    textAfter text launches 0 = some text := by
  cases launches <;> rfl

structure Rejected (text : String) (e : ParseError) : Prop where
  nonblank : ¬ Blank text.toList
  unread : Document.parse text = .error e

section
variable (text : String) (launches : List Launch) (answers : List Answer)

/-- The first `k` runs of the editor left texts that cannot be read, and all were to be edited
again. -/
def Confirmed (k : Nat) : Prop :=
  ∀ i < k, ∃ t e, textAfter text launches (i + 1) = some t ∧ Rejected t e ∧
    answers[i]? = some (.ok true)

/-- How an edit ends with run number `k` of the editor, counted from 0. -/
inductive Ends (k : Nat) : Except Failure EditOutcome → Prop
  | replaced {t : String} {d : Document} (ht : textAfter text launches (k + 1) = some t)
      (hb : ¬ Blank t.toList) (hp : Document.parse t = .ok d) : Ends k (.ok (.replaced d))
  | unchanged {t : String} (ht : textAfter text launches (k + 1) = some t)
      (hb : Blank t.toList) : Ends k (.ok .unchanged)
  | declined {t : String} {e : ParseError} (ht : textAfter text launches (k + 1) = some t)
      (hr : Rejected t e) (ha : answers[k]? = some (.ok false)) : Ends k (.error .declined)
  | unanswered {t : String} {e : ParseError} {cause : String}
      (ht : textAfter text launches (k + 1) = some t) (hr : Rejected t e)
      (ha : answers[k]? = some (.error cause)) : Ends k (.error (.io cause))
  | failed {cause : String} (hl : launches[k]?.bind Launch.failure? = some cause) :
      Ends k (.error (.io cause))

/-- What an edit from a text on does with the runs of the editor and the answers. -/
structure Follows (r : EditRun) : Prop where
  /-- A run of the editor finds what the one before left, the first one the text. -/
  seen : ∀ i t, r.seen[i]? = some t ↔ i < launches.length ∧ Confirmed text launches answers i ∧
    textAfter text launches i = some t
  /-- What cannot be read is told once, in order. -/
  reported : ∀ i e, r.reported[i]? = some e ↔ Confirmed text launches answers i ∧
    ∃ t, textAfter text launches (i + 1) = some t ∧ Rejected t e
  outcome : ∀ o, r.outcome = some o ↔ ∃ k, Confirmed text launches answers k ∧
    Ends text launches answers k o

end

section
variable {text : String} {l : Launch} {launches : List Launch} {answers : List Answer}

theorem confirmed_zero : Confirmed text launches answers 0 := nofun

theorem Rejected.unique {t : String} {e e' : ParseError} (h : Rejected t e) (h' : Rejected t e') :
    e = e' := by
  have hp := h.unread.symm.trans h'.unread
  exact Except.error.inj hp

theorem textAfter_one : textAfter text (l :: launches) 1 = l.left? text := by
  simp [textAfter]

theorem textAfter_succ {t : String} (hl : l.left? text = some t) (k : Nat) :
    textAfter text (l :: launches) (k + 1) = textAfter t launches k := by
  simp [textAfter, hl]

theorem confirmed_succ {t : String} {e : ParseError} (hl : l.left? text = some t)
    (hr : Rejected t e) {k : Nat} :
    Confirmed text (l :: launches) (.ok true :: answers) (k + 1) ↔
      Confirmed t launches answers k := by
  constructor
  · intro h i hi
    have := h (i + 1) (Nat.succ_lt_succ hi)
    simpa [textAfter_succ hl] using this
  · intro h i hi
    cases i with
    | zero => exact ⟨t, e, textAfter_one.trans hl, hr, rfl⟩
    | succ i =>
      have := h i (Nat.lt_of_succ_lt_succ hi)
      simpa [textAfter_succ hl] using this

theorem ends_succ {t : String} (hl : l.left? text = some t) {a : Answer} {k : Nat}
    {o : Except Failure EditOutcome} :
    Ends text (l :: launches) (a :: answers) (k + 1) o ↔ Ends t launches answers k o := by
  have ht : textAfter text (l :: launches) (k + 1 + 1) = textAfter t launches (k + 1) :=
    textAfter_succ hl (k + 1)
  constructor
  · intro h
    cases h with
    | replaced h hb hp => exact .replaced (ht.symm.trans h) hb hp
    | unchanged h hb => exact .unchanged (ht.symm.trans h) hb
    | declined h hr ha => exact .declined (ht.symm.trans h) hr ha
    | unanswered h hr ha => exact .unanswered (ht.symm.trans h) hr ha
    | failed hf => exact .failed hf
  · intro h
    cases h with
    | replaced h hb hp => exact .replaced (ht.trans h) hb hp
    | unchanged h hb => exact .unchanged (ht.trans h) hb
    | declined h hr ha => exact .declined (ht.trans h) hr ha
    | unanswered h hr ha => exact .unanswered (ht.trans h) hr ha
    | failed hf => exact .failed hf

theorem failure?_of_left? {t : String} (hl : l.left? text = some t) : l.failure? = none := by
  cases l <;> first | rfl | cases hl

theorem exists_failure?_of_left? (hl : l.left? text = none) : ∃ cause, l.failure? = some cause := by
  cases l with
  | writes content => cases hl
  | leaves => cases hl
  | garbles => exact ⟨_, rfl⟩
  | fails cause => exact ⟨cause, rfl⟩

theorem ends_zero {t : String} (hl : l.left? text = some t) {o : Except Failure EditOutcome} :
    Ends text (l :: launches) answers 0 o ↔
      (Blank t.toList ∧ o = .ok .unchanged) ∨
      (¬ Blank t.toList ∧ ∃ d, Document.parse t = .ok d ∧ o = .ok (.replaced d)) ∨
      ∃ e, Rejected t e ∧ ((answers[0]? = some (.ok false) ∧ o = .error .declined) ∨
        ∃ cause, answers[0]? = some (.error cause) ∧ o = .error (.io cause)) := by
  have ht : textAfter text (l :: launches) (0 + 1) = some t := textAfter_one.trans hl
  constructor
  · intro h
    cases h with
    | replaced h hb hp =>
      cases ht.symm.trans h
      exact .inr (.inl ⟨hb, _, hp, rfl⟩)
    | unchanged h hb =>
      cases ht.symm.trans h
      exact .inl ⟨hb, rfl⟩
    | declined h hr ha =>
      cases ht.symm.trans h
      exact .inr (.inr ⟨_, hr, .inl ⟨ha, rfl⟩⟩)
    | unanswered h hr ha =>
      cases ht.symm.trans h
      exact .inr (.inr ⟨_, hr, .inr ⟨_, ha, rfl⟩⟩)
    | failed hf =>
      have hn := failure?_of_left? hl
      simp [hn] at hf
  · rintro (⟨hb, rfl⟩ | ⟨hb, d, hp, rfl⟩ | ⟨e, hr, ⟨ha, rfl⟩ | ⟨cause, ha, rfl⟩⟩)
    · exact .unchanged ht hb
    · exact .replaced ht hb hp
    · exact .declined ht hr ha
    · exact .unanswered ht hr ha

theorem ends_zero_failure {cause : String} (hl : l.left? text = none)
    (hf : l.failure? = some cause) {o : Except Failure EditOutcome} :
    Ends text (l :: launches) answers 0 o ↔ o = .error (.io cause) := by
  have ht : textAfter text (l :: launches) (0 + 1) = none := textAfter_one.trans hl
  constructor
  · intro h
    cases h with
    | replaced h => cases ht.symm.trans h
    | unchanged h => cases ht.symm.trans h
    | declined h => cases ht.symm.trans h
    | unanswered h => cases ht.symm.trans h
    | failed h =>
      cases hf.symm.trans (by simpa using h)
      rfl
  · rintro rfl
    exact .failed (by simpa using hf)

variable {r : EditRun}

/-- The first run of the editor is the last one, unless it leaves a text that is to be edited
again. -/
theorem follows_last
    (hc : ∀ t e, l.left? text = some t → Rejected t e → answers[0]? ≠ some (.ok true))
    (hs : r.seen = [text])
    (hr : ∀ e, r.reported[0]? = some e ↔ ∃ t, l.left? text = some t ∧ Rejected t e)
    (hn : r.reported.length ≤ 1)
    (ho : ∀ o, r.outcome = some o ↔ Ends text (l :: launches) answers 0 o) :
    r.Follows text (l :: launches) answers := by
  have hz (k : Nat) : Confirmed text (l :: launches) answers k ↔ k = 0 := by
    constructor
    · intro h
      by_contra hk
      obtain ⟨t, e, ht, hx, ha⟩ := h 0 (Nat.pos_of_ne_zero hk)
      exact hc t e (textAfter_one.symm.trans ht) hx ha
    · rintro rfl
      exact confirmed_zero
  refine ⟨fun i t => ?_, fun i e => ?_, fun o => ?_⟩
  · rw [hs, hz]
    cases i <;> simp [textAfter]
  · rw [hz]
    cases i with
    | zero => simp [hr, textAfter]
    | succ i =>
      have : r.reported.length ≤ i + 1 := by omega
      simp [List.getElem?_eq_none this]
  · simp [hz, ho]

theorem follows_unread {o : Except Failure EditOutcome}
    (hn : ∀ t, l.left? text = some t → ∀ e, ¬ Rejected t e)
    (ho : ∀ o', o = o' ↔ Ends text (l :: launches) answers 0 o') :
    (sees text (ends o)).Follows text (l :: launches) answers := by
  refine follows_last (fun t e ht hr => absurd hr (hn t ht e)) rfl (fun e => ?_) (Nat.zero_le 1)
    fun o' => ?_
  · constructor
    · exact nofun
    · rintro ⟨t, ht, hr⟩
      exact absurd hr (hn t ht e)
  · rw [← ho]
    exact Option.some_inj

theorem follows_told {t : String} {e : ParseError} {outcome : Option (Except Failure EditOutcome)}
    (hl : l.left? text = some t) (hr : Rejected t e) (ha : answers[0]? ≠ some (.ok true))
    (ho : ∀ o, outcome = some o ↔ Ends text (l :: launches) answers 0 o) :
    (sees text (reports e ⟨outcome, [], []⟩)).Follows text (l :: launches) answers := by
  refine follows_last (fun _ _ _ _ => ha) rfl (fun e' => ?_) (Nat.le_refl 1) ho
  constructor
  · rintro ⟨⟩
    exact ⟨t, hl, hr⟩
  · rintro ⟨u, hu, hr'⟩
    cases hl.symm.trans hu
    exact congrArg some (hr.unique hr')

theorem follows_again {t : String} {e : ParseError} (h : r.Follows t launches answers)
    (hl : l.left? text = some t) (hr : Rejected t e) :
    (sees text (reports e r)).Follows text (l :: launches) (.ok true :: answers) := by
  have ht : ∀ k, textAfter text (l :: launches) (k + 1) = textAfter t launches k :=
    textAfter_succ hl
  refine ⟨fun i u => ?_, fun i e' => ?_, fun o => ?_⟩
  · cases i with
    | zero => simp [sees, reports, textAfter, confirmed_zero]
    | succ i => simp [sees, reports, ht, confirmed_succ hl hr, h.seen i u]
  · cases i with
    | zero =>
      simp only [sees, reports, ht, List.getElem?_cons_zero, Option.some.injEq, confirmed_zero,
        true_and]
      constructor
      · rintro rfl
        exact ⟨t, textAfter_zero t launches, hr⟩
      · rintro ⟨u, hu, hr'⟩
        cases (textAfter_zero t launches).symm.trans hu
        exact hr.unique hr'
    | succ i => simp [sees, reports, ht, confirmed_succ hl hr, h.reported i e']
  · rw [show (sees text (reports e r)).outcome = r.outcome from rfl, h.outcome o]
    constructor
    · rintro ⟨k, hc, he⟩
      exact ⟨k + 1, (confirmed_succ hl hr).2 hc, (ends_succ hl).2 he⟩
    · rintro ⟨k, hc, he⟩
      cases k with
      | zero =>
        -- a text that is to be edited again ends nothing
        rcases (ends_zero hl).1 he with ⟨hb, -⟩ | ⟨-, d, hp, -⟩ | ⟨-, -, ⟨ha, -⟩ | ⟨_, ha, -⟩⟩
        · exact absurd hb hr.nonblank
        · cases hp.symm.trans hr.unread
        · cases ha
        · cases ha
      | succ k => exact ⟨k, (confirmed_succ hl hr).1 hc, (ends_succ hl).1 he⟩

theorem editFrom_of_left? {t : String} (hl : l.left? text = some t) :
    editFrom text (l :: launches) answers = .sees text (editFrom.decide t launches answers) := by
  cases l <;> cases hl <;> rw [editFrom]

theorem editFrom_of_failure? {cause : String} (hf : l.failure? = some cause) :
    editFrom text (l :: launches) answers = .sees text (.ends (.error (.io cause))) := by
  cases l <;> cases hf <;> rw [editFrom]

theorem decide_of_blank {t : String} (hb : Blank t.toList) :
    editFrom.decide t launches answers = .ends (.ok .unchanged) := by
  rw [editFrom.decide.eq_def, if_pos (Text.isEmpty_trimString.2 hb)]

theorem decide_of_parse {t : String} {d : Document} (hb : ¬ Blank t.toList)
    (hp : Document.parse t = .ok d) :
    editFrom.decide t launches answers = .ends (.ok (.replaced d)) := by
  rw [editFrom.decide.eq_def, if_neg (mt Text.isEmpty_trimString.1 hb), hp]

theorem decide_of_rejected {t : String} {e : ParseError} (hr : Rejected t e) :
    editFrom.decide t launches answers = .reports e (match answers with
      | [] => ⟨none, [], []⟩
      | .error cause :: _ => .ends (.error (.io cause))
      | .ok false :: _ => .ends (.error .declined)
      | .ok true :: answers => editFrom t launches answers) := by
  have h := editFrom.decide.eq_def t launches answers
  rw [if_neg (mt Text.isEmpty_trimString.1 hr.nonblank), hr.unread] at h
  exact h

theorem editFrom_nil : editFrom text [] answers = ⟨none, [], []⟩ := by
  rw [editFrom]

end

theorem follows_nil (text : String) (answers : List Answer) :
    Follows text [] answers ⟨none, [], []⟩ := by
  have ht (k : Nat) : textAfter text [] (k + 1) = none := rfl
  refine ⟨fun i t => by simp, fun i e => by simp [ht], fun o => ?_⟩
  constructor
  · exact nofun
  · rintro ⟨k, -, he⟩
    cases he with
    | replaced h => cases h
    | unchanged h => cases h
    | declined h => cases h
    | unanswered h => cases h
    | failed h => cases h

theorem editFrom_follows (text : String) (launches : List Launch) (answers : List Answer) :
    (editFrom text launches answers).Follows text launches answers := by
  induction launches generalizing text answers with
  | nil =>
    rw [editFrom_nil]
    exact follows_nil text answers
  | cons l launches ih =>
    cases hl : l.left? text with
    | none =>
      obtain ⟨cause, hf⟩ := exists_failure?_of_left? hl
      rw [editFrom_of_failure? hf]
      refine follows_unread (by simp [hl]) fun o => ?_
      rw [ends_zero_failure hl hf, eq_comm]
    | some t =>
      rw [editFrom_of_left? hl]
      by_cases hb : Blank t.toList
      · have hn (e : ParseError) : ¬ Rejected t e := fun hr => hr.nonblank hb
        rw [decide_of_blank hb]
        refine follows_unread (by simpa [hl] using hn) fun o => ?_
        simp [ends_zero hl, hb, hn, eq_comm]
      · cases hp : Document.parse t with
        | ok d =>
          have hn (e : ParseError) : ¬ Rejected t e := fun hr => by cases hp.symm.trans hr.unread
          rw [decide_of_parse hb hp]
          refine follows_unread (by simpa [hl] using hn) fun o => ?_
          simp [ends_zero hl, hb, hn, hp, eq_comm]
        | error e =>
          have hr : Rejected t e := ⟨hb, hp⟩
          have hu (e' : ParseError) : Rejected t e' ↔ e' = e :=
            ⟨fun h => h.unique hr, fun h => h ▸ hr⟩
          rw [decide_of_rejected hr]
          obtain _ | ⟨_ | _ | _, answers⟩ := answers
          · refine follows_told hl hr nofun fun o => ?_
            simp [ends_zero hl, hb, hu, hp]
          · refine follows_told hl hr nofun fun o => ?_
            simp [ends_zero hl, hb, hu, hp, eq_comm]
          · refine follows_told hl hr nofun fun o => ?_
            simp [ends_zero hl, hb, hu, hp, eq_comm]
          · exact follows_again (ih t answers) hl hr

end EditRun

open EditRun

/-- Round by round, an edit does what its rules say. A document that was read and that the editor
leaves as it is replaces itself, unless it is empty. -/
theorem editLoop_follows (d : Document) (launches : List Launch) (answers : List Answer) :
    (editLoop d launches answers).Follows d.source launches answers ∧
    ∀ src l, Document.parse src = .ok d → l.left? d.source = some d.source →
      (editLoop d (l :: launches) answers).outcome =
        some (.ok (if d.bindings.isEmpty then .unchanged else .replaced d)) := by
  refine ⟨editFrom_follows d.source launches answers, fun src l hp hl => ?_⟩
  have hv := Document.valid_of_parse hp
  have hf := editFrom_follows d.source (l :: launches) answers
  refine (hf.outcome _).2 ⟨0, confirmed_zero, (ends_zero hl).2 ?_⟩
  by_cases hb : d.bindings = []
  · exact .inl ⟨(Document.blank_source hv).2 hb, by simp [hb]⟩
  · have hs := Document.parse_source_of_valid hv
    exact .inr (.inl ⟨mt (Document.blank_source hv).1 hb, d, hs, by simp [hb]⟩)

/-- A document that is left as it is, and one that is edited again after an unmatched brace. -/
theorem editLoop_follows_brace : ∃ d, Document.parse "a = 1" = .ok d ∧
    (Launch.leaves.left? d.source = some d.source) ∧
    (editLoop d [.leaves] []).outcome = some (.ok (.replaced d)) ∧
    (editLoop d [.writes "\x7d", .writes " "] [.ok true]).Follows d.source
      [.writes "\x7d", .writes " "] [.ok true] := by
  have h : Document.parse "a = 1" = .ok ⟨[.leaf "a" [] ⟨"1", .int 1⟩]⟩ := by cbv
  exact ⟨_, h, rfl, (editLoop_follows _ [] []).2 _ .leaves h rfl, (editLoop_follows _ _ _).1⟩

end Tether
