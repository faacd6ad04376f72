import Mathlib
import Tether.Proofs.Document.Valid

/-! Where the reading of a document fails. A fault of a line does not depend on what follows it. A
block without an end is found only when no line is faulty, and of the blocks that are open after the
last line it is the innermost one (`parse_error_local`). -/
namespace Tether

namespace Document

def Line.isOpening : Line → Bool
  | .opening _ => true
  | _ => false

def Line.isClose : Line → Bool
  | .close => true
  | _ => false

def openings (ls : List (List Char)) : Nat := ls.countP fun l => (Line.classify l).isOpening

def closings (ls : List (List Char)) : Nat := ls.countP fun l => (Line.classify l).isClose

@[simp] theorem openings_nil : openings [] = 0 := rfl

@[simp] theorem closings_nil : closings [] = 0 := rfl

@[simp] theorem openings_append (ls ms : List (List Char)) :
    openings (ls ++ ms) = openings ls + openings ms := List.countP_append

@[simp] theorem closings_append (ls ms : List (List Char)) :
    closings (ls ++ ms) = closings ls + closings ms := List.countP_append

theorem openings_cons (l : List Char) (ls : List (List Char)) :
    openings (l :: ls) = openings ls + if (Line.classify l).isOpening then 1 else 0 :=
  List.countP_cons

theorem closings_cons (l : List Char) (ls : List (List Char)) :
    closings (l :: ls) = closings ls + if (Line.classify l).isClose then 1 else 0 :=
  List.countP_cons

/-- Line `n` opens a block of that name, and no line after it closes this block: as far as one
reads on, no more blocks are closed than opened. -/
def StaysOpen (ls : List (List Char)) (n : Nat) (name : String) : Prop :=
  ∃ before l after, ls = before ++ l :: after ∧ before.length + 1 = n ∧
    Line.classify l = .opening name.toList ∧ ∀ part, part <+: after → closings part ≤ openings part

/-- Every line that closes a block has its opening line before it, and the other way round. -/
structure Balanced (ls : List (List Char)) : Prop where
  part : ∀ part, part <+: ls → closings part ≤ openings part
  whole : closings ls = openings ls

theorem Balanced.nil : Balanced [] := by
  refine ⟨fun part hp => ?_, rfl⟩
  rw [List.prefix_nil.1 hp]
  exact Nat.le_refl _

theorem Balanced.append {ls ms : List (List Char)} (h : Balanced ls) (hm : Balanced ms) :
    Balanced (ls ++ ms) := by
  refine ⟨fun part hp => ?_, ?_⟩
  · rcases List.prefix_or_prefix_of_prefix hp (List.prefix_append ls ms) with hl | ⟨part, rfl⟩
    · exact h.part _ hl
    · have := hm.part part ((List.prefix_append_right_inj ls).1 hp)
      rw [openings_append, closings_append, h.whole]
      omega
  · rw [openings_append, closings_append, h.whole, hm.whole]

theorem Balanced.singleton {l : List Char} (ho : (Line.classify l).isOpening = false)
    (hc : (Line.classify l).isClose = false) : Balanced [l] := by
  refine ⟨fun part hp => ?_, by simp [openings, closings, ho, hc]⟩
  rcases List.prefix_cons_iff.1 hp with rfl | ⟨t, rfl, ht⟩
  · exact Nat.le_refl _
  · rw [List.prefix_nil.1 ht]
    simp [openings, closings, ho, hc]

theorem Balanced.block {ls : List (List Char)} (h : Balanced ls) {o c : List Char}
    (ho : (Line.classify o).isOpening) (hc : Line.classify c = .close) :
    Balanced (o :: (ls ++ [c])) := by
  have hoc : (Line.classify o).isClose = false := by
    cases hl : Line.classify o <;> simp [hl, Line.isOpening, Line.isClose] at ho ⊢
  have hw : closings (o :: (ls ++ [c])) = openings (o :: (ls ++ [c])) := by
    have hcc : (Line.classify c).isClose ∧ (Line.classify c).isOpening = false := by
      rw [hc]
      exact ⟨rfl, rfl⟩
    simp [openings_cons, closings_cons, h.whole, ho, hoc, hcc]
  refine ⟨fun part hp => ?_, hw⟩
  rw [← List.cons_append, List.prefix_concat_iff] at hp
  rcases hp with rfl | hp
  · exact hw.le
  rcases List.prefix_cons_iff.1 hp with rfl | ⟨t, rfl, ht⟩
  · exact Nat.le_refl _
  · simpa [openings_cons, closings_cons, ho, hoc] using (h.part t ht).trans (Nat.le_succ _)

/-- The lines that opened the blocks, innermost first: what stands between them, and behind the
last of them, opens and closes blocks of its own. -/
inductive Opened : List (List Char) → List OpenBlock → Prop
  | none {ls : List (List Char)} (h : Balanced ls) : Opened ls []
  | block {before after : List (List Char)} {l : List Char} {b : OpenBlock} {bs : List OpenBlock}
      (ho : Opened before bs) (hl : Line.classify l = .opening b.name.toList)
      (hn : before.length + 1 = b.line) (ha : Balanced after) :
      Opened (before ++ l :: after) (b :: bs)

theorem Opened.append {ls ms : List (List Char)} {bs : List OpenBlock} (h : Opened ls bs)
    (hm : Balanced ms) : Opened (ls ++ ms) bs := by
  cases h with
  | none h => exact .none (h.append hm)
  | block ho hl hn ha =>
    rw [List.append_assoc, List.cons_append]
    exact .block ho hl hn (ha.append hm)

theorem Opened.innermost {ls : List (List Char)} {b : OpenBlock} {bs : List OpenBlock}
    (h : Opened ls (b :: bs)) :
    StaysOpen ls b.line b.name ∧ ∀ n name, StaysOpen ls n name → n ≤ b.line := by
  cases h with
  | @block before after l _ _ ho hl hn ha =>
    refine ⟨⟨before, l, after, rfl, hn, hl, ha.part⟩, ?_⟩
    rintro n name ⟨before', l', after', he, rfl, hl', hp⟩
    by_contra hlt
    -- otherwise the opening line stands behind `l`, where every block is closed
    rcases List.append_eq_append_iff.1 he with ⟨us, rfl, hus⟩ | ⟨us, rfl, -⟩
    · cases us with
      | nil =>
        rw [List.append_nil] at hlt
        omega
      | cons u us =>
        obtain ⟨rfl, rfl⟩ := List.cons.inj hus
        have hu := ha.part us (List.prefix_append us (l' :: after'))
        have hv := hp after' List.prefix_rfl
        have hw := ha.whole
        simp [openings_cons, closings_cons, hl', Line.isOpening, Line.isClose] at hw
        omega
    · rw [List.length_append] at hn
      omega

namespace Reading

theorem eq_ofList_of_blockName {r : Reading} {cs : List Char} {name : String}
    (h : r.blockName cs = .ok name) : name = String.ofList cs := by
  rw [blockName] at h
  split at h
  · cases h
  · split at h
    · cases h
    · cases h
      rfl

/-- The blocks that are open after one more line, which is the one after `ls`. -/
theorem opened_step {r s : Reading} {ls : List (List Char)} (h : Opened ls r.blocks) {l : List Char}
    (hs : r.step (ls.length + 1) (Line.classify l) = .ok s) : Opened (ls ++ [l]) s.blocks := by
  have plain (ho : (Line.classify l).isOpening = false) (hc : (Line.classify l).isClose = false)
      (hb : s.blocks = r.blocks) : Opened (ls ++ [l]) s.blocks := by
    rw [hb]
    exact h.append (.singleton ho hc)
  cases hl : Line.classify l with
  | blank =>
    rw [hl] at hs plain
    cases hs
    exact plain rfl rfl rfl
  | close =>
    rw [hl] at hs
    unfold step at hs
    dsimp only at hs
    split at hs
    · cases hs
    next b bs hb =>
      cases hs
      rw [hb] at h
      cases h with
      | @block before after o _ _ ho hb hn ha =>
        -- the line closes what `o` has opened
        have hw := ha.block (o := o) (c := l) (by rw [hb]; rfl) hl
        rw [List.append_assoc, List.cons_append]
        exact ho.append hw
  | value _ _ | emptyBlock _ =>
    rw [hl] at hs plain
    obtain ⟨b, -, he⟩ := bind_eq_ok.1 hs
    cases he
    exact plain rfl rfl rfl
  | opening name =>
    rw [hl] at hs
    obtain ⟨b, hb, he⟩ := bind_eq_ok.1 hs
    cases he
    refine .block h ?_ rfl .nil
    rw [hl, eq_ofList_of_blockName hb, String.toList_ofList]
  | unknown line =>
    rw [hl] at hs
    cases hs

theorem opened_run {r s : Reading} {ls ms : List (List Char)} (h : Opened ls r.blocks)
    (hr : r.run (ls.length + 1) ms = .ok s) : Opened (ls ++ ms) s.blocks := by
  induction ms generalizing r ls with
  | nil =>
    cases hr
    rwa [List.append_nil]
  | cons m ms ih =>
    rw [run] at hr
    split at hr
    next t ht =>
      rw [List.append_cons]
      exact ih (opened_step h ht) (by rwa [List.length_append, List.length_singleton])
    · cases hr

theorem run_append (r : Reading) (n : Nat) (ls ms : List (List Char)) :
    r.run n (ls ++ ms) = r.run n ls >>= fun s => s.run (n + ls.length) ms := by
  induction ls generalizing r n with
  | nil => rfl
  | cons l ls ih =>
    rw [List.cons_append, run, run]
    cases r.step n (Line.classify l) with
    | error f => rfl
    | ok s =>
      dsimp only
      rw [ih, List.length_cons, Nat.add_right_comm, Nat.add_assoc]

theorem run_eq_error {r : Reading} {n : Nat} {ls : List (List Char)} {e : ParseError}
    (h : r.run n ls = .error e) : ∃ before l after s, ls = before ++ l :: after ∧
      r.run n before = .ok s ∧ e.line = n + before.length ∧
      s.step e.line (Line.classify l) = .error e.fault := by
  induction ls generalizing r n with
  | nil => cases h
  | cons l ls ih =>
    rw [run] at h
    split at h
    next s hs =>
      obtain ⟨before, m, after, t, rfl, hb, hn, ht⟩ := ih h
      refine ⟨l :: before, m, after, t, rfl, ?_, ?_, ht⟩
      · rw [run, hs]
        exact hb
      · rw [hn, List.length_cons]
        omega
    next f hf =>
      cases h
      exact ⟨[], l, ls, r, rfl, rfl, rfl, hf⟩

theorem run_of_fault {r s : Reading} {n : Nat} {before : List (List Char)} {l : List Char}
    {f : ParseFault} (hb : r.run n before = .ok s)
    (hs : s.step (n + before.length) (Line.classify l) = .error f) (after : List (List Char)) :
    r.run n (before ++ l :: after) = .error ⟨n + before.length, f⟩ := by
  rw [run_append, hb, ok_bind, run, hs]

end Reading

section Faults
variable {α β : Type}

def OfLine (x : Except ParseFault α) : Prop := ∀ name, x ≠ .error (.unclosedBlock name)

theorem OfLine.ok (a : α) : OfLine (.ok a) := by
  simp [OfLine]

theorem OfLine.error {e : ParseFault} (he : ∀ name, e ≠ .unclosedBlock name) :
    OfLine (.error e : Except ParseFault α) := by
  simpa [OfLine] using he

theorem OfLine.bind {x : Except ParseFault α} {f : α → Except ParseFault β} (hx : OfLine x)
    (hf : ∀ a, OfLine (f a)) : OfLine (x >>= f) := by
  cases x with
  | error e => exact fun name h => hx name (by cases h; rfl)
  | ok a => exact hf a

theorem ofLine_readParams (known : List Param) (ws : List (List Char)) :
    OfLine (readParams known ws) := by
  induction ws generalizing known with
  | nil => exact .ok _
  | cons w ws ih =>
    rw [readParams_cons]
    split
    · exact .error (by simp)
    · split
      · exact .error (by simp)
      · split
        · exact .error (by simp)
        · exact ih _

theorem ofLine_readHead (head : List Char) : OfLine (readHead head) := by
  rw [readHead]
  split
  · exact .error (by simp)
  · split
    · exact (ofLine_readParams [] _).bind fun ps => .ok _
    · exact .error (by simp)

namespace Reading
variable (r : Reading)

theorem ofLine_blockName (name : List Char) : OfLine (r.blockName name) := by
  rw [blockName]
  split
  · exact .error (by simp)
  · split
    · exact .error (by simp)
    · exact .ok _

theorem ofLine_leaf (head body : List Char) : OfLine (r.leaf head body) := by
  refine (ofLine_readHead head).bind fun ⟨name, params⟩ => ?_
  dsimp only
  split
  · exact .error (by simp)
  · split
    · exact .error (by simp)
    · split
      · exact .ok _
      · exact .error (by simp)

theorem ofLine_step (n : Nat) (line : Line) : OfLine (r.step n line) := by
  cases line with
  | blank => exact .ok _
  | close =>
    unfold step
    dsimp only
    split
    · exact .error (by simp)
    · exact .ok _
  | value head body => exact (ofLine_leaf r head body).bind fun b => .ok _
  | emptyBlock name | opening name => exact (ofLine_blockName r name).bind fun b => .ok _
  | unknown line => exact .error (by simp)

end Reading

end Faults

/-- There are texts with these lines, and each of them is read to its end: a block without an end is
all that can be wrong. -/
structure ReadsThrough (ls : List (List Char)) : Prop where
  text : ∃ src : String, Text.lines src.toList = ls
  read : ∀ src : String, Text.lines src.toList = ls →
    (∃ d, parse src = .ok d) ∨ ∃ n name, parse src = .error ⟨n, .unclosedBlock name⟩

variable {src : String} {e : ParseError}

theorem parse_eq_error (h : parse src = .error e) :
    (Reading.mk [] []).run 1 (Text.lines src.toList) = .error e ∨
      ∃ es b bs, (Reading.mk [] []).run 1 (Text.lines src.toList) = .ok ⟨es, b :: bs⟩ ∧
        e = ⟨b.line, .unclosedBlock b.name⟩ := by
  rw [parse] at h
  cases hr : (Reading.mk [] []).run 1 (Text.lines src.toList) with
  | error e' =>
    rw [hr] at h
    cases h
    exact .inl rfl
  | ok r =>
    obtain ⟨es, bs⟩ := r
    cases bs with
    | nil =>
      rw [hr] at h
      cases h
    | cons b bs =>
      rw [hr] at h
      cases h
      exact .inr ⟨es, b, bs, rfl, rfl⟩

theorem readsThrough_of_run {ls : List (List Char)} {r : Reading} (hl : ∀ l ∈ ls, '\n' ∉ l)
    (hr : (Reading.mk [] []).run 1 ls = .ok r) : ReadsThrough ls := by
  refine ⟨Text.exists_lines_eq hl, fun src hs => ?_⟩
  cases hp : parse src with
  | ok d => exact .inl ⟨d, rfl⟩
  | error e =>
    rcases parse_eq_error hp with h | ⟨es, b, bs, -, rfl⟩
    · rw [hs, hr] at h
      cases h
    · exact .inr ⟨b.line, b.name, rfl⟩

theorem parse_of_run_eq_error (h : (Reading.mk [] []).run 1 (Text.lines src.toList) = .error e) :
    parse src = .error e := by
  rw [parse, h, error_bind]

/-- A fault of a line, which stands in every text that begins with the same lines. -/
theorem local_of_run_eq_error
    (h : (Reading.mk [] []).run 1 (Text.lines src.toList) = .error e) :
    (1 ≤ e.line ∧ e.line ≤ (Text.lines src.toList).length) ∧
    (∀ name, e.fault ≠ .unclosedBlock name) ∧
    (∀ other : String,
      (Text.lines other.toList).take e.line = (Text.lines src.toList).take e.line →
        parse other = .error e) ∧
    ReadsThrough ((Text.lines src.toList).take (e.line - 1)) := by
  obtain ⟨before, l, after, s, hl, hb, hn, hs⟩ := Reading.run_eq_error h
  have hne (name : String) : e.fault ≠ .unclosedBlock name := fun he =>
    Reading.ofLine_step s e.line _ name (by rw [hs, he])
  have hlines : ∀ m ∈ before, '\n' ∉ m := fun m hm =>
    Text.not_mem_of_mem_lines m (hl ▸ List.mem_append_left _ hm)
  have hbefore : (Text.lines src.toList).take (e.line - 1) = before := by
    rw [hl, hn, Nat.add_sub_cancel_left, List.take_left]
  have hupto : (Text.lines src.toList).take e.line = before ++ [l] := by
    rw [hl, hn, List.append_cons, Nat.add_comm]
    exact List.take_left' (by simp)
  refine ⟨⟨by omega, ?_⟩, hne, fun other ho => ?_, ?_⟩
  · rw [hl, hn, List.length_append, List.length_cons]
    omega
  · -- the lines behind the faulty one are all that can differ
    rw [hupto] at ho
    have hother := List.take_append_drop e.line (Text.lines other.toList)
    rw [ho, List.append_assoc, List.singleton_append] at hother
    have hf := Reading.run_of_fault hb (hn ▸ hs) ((Text.lines other.toList).drop e.line)
    rw [hother, ← hn] at hf
    exact parse_of_run_eq_error hf
  · rw [hbefore]
    exact readsThrough_of_run hlines hb

/-- The line of an error is one of the lines. A fault of a line is found in every text that begins
with the same lines up to this one, and those before it are read through. A block without an end is
found only if no line is faulty: it is the innermost block that stays open, with the line that
opened it. -/
theorem parse_error_local (h : parse src = .error e) :
    (1 ≤ e.line ∧ e.line ≤ (Text.lines src.toList).length) ∧
    ((∀ name, e.fault ≠ .unclosedBlock name) →
      (∀ other : String,
        (Text.lines other.toList).take e.line = (Text.lines src.toList).take e.line →
          parse other = .error e) ∧
      ReadsThrough ((Text.lines src.toList).take (e.line - 1))) ∧
    (∀ name, e.fault = .unclosedBlock name →
      (∀ k, ReadsThrough ((Text.lines src.toList).take k)) ∧
      StaysOpen (Text.lines src.toList) e.line name ∧
      ∀ n other, StaysOpen (Text.lines src.toList) n other → n ≤ e.line) := by
  rcases parse_eq_error h with hr | ⟨es, b, bs, hr, rfl⟩
  · obtain ⟨hb, hne, hl⟩ := local_of_run_eq_error hr
    exact ⟨hb, fun _ => hl, fun name hn => absurd hn (hne name)⟩
  · have ho : Opened (Text.lines src.toList) (b :: bs) :=
      Reading.opened_run (show Opened [] _ from .none .nil) hr
    obtain ⟨hopen, hlast⟩ := ho.innermost
    refine ⟨?_, fun hn => absurd rfl (hn b.name), ?_⟩
    · obtain ⟨before, l, after, hl, hn, -, -⟩ := hopen
      simp only [hl, List.length_append, List.length_cons, ← hn]
      omega
    · rintro name ⟨⟩
      refine ⟨fun k => ?_, hopen, hlast⟩
      rw [← List.take_append_drop k (Text.lines src.toList), Reading.run_append] at hr
      obtain ⟨r, hk, -⟩ := bind_eq_ok.1 hr
      exact readsThrough_of_run
        (fun l hl => Text.not_mem_of_mem_lines l (List.mem_of_mem_take hl)) hk

/-- A second `a` is found whatever follows it, and a block that is still open after the last line,
though one inside it is closed. -/
theorem parse_error_local_both :
    parse "a \x7b\n\x7d\r\na = 2\nb = 1" = .error ⟨3, .duplicateBinding "a"⟩ ∧
    parse "a \x7b\n\x7d\na = 2\n\x7d\n?" = .error ⟨3, .duplicateBinding "a"⟩ ∧
    parse "a \x7b\nb \x7b\n\x7d\nc = 1" = .error ⟨1, .unclosedBlock "a"⟩ ∧
    StaysOpen (Text.lines "a \x7b\nb \x7b\n\x7d\nc = 1".toList) 1 "a" := by
  have hd : parse "a \x7b\n\x7d\r\na = 2\nb = 1" = .error ⟨3, .duplicateBinding "a"⟩ := by cbv
  have ho : parse "a \x7b\nb \x7b\n\x7d\nc = 1" = .error ⟨1, .unclosedBlock "a"⟩ := by cbv
  have hl : (Text.lines "a \x7b\n\x7d\na = 2\n\x7d\n?".toList).take 3 =
      (Text.lines "a \x7b\n\x7d\r\na = 2\nb = 1".toList).take 3 := by decide
  refine ⟨hd, ?_, ho, ?_⟩
  · exact ((parse_error_local hd).2.1 (by simp)).1 _ hl
  · exact ((parse_error_local ho).2.2 "a" rfl).2.1

end Document

end Tether
