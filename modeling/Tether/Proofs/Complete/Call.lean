import Tether.Complete.Call
import Tether.Proofs.Text.Position
import Tether.Proofs.Text.Segments
import Tether.Proofs.Text.Split

/-! The call at a cursor and the argument the cursor is in: `callAt?_arguments`. The name is looked
for from the last parenthesis that is not closed, and the commas are counted from there on. -/
namespace Tether.Complete
open Text

inductive Pair : Char → Char → Prop
  | round : Pair '(' ')'
  | square : Pair '[' ']'
  | curly : Pair '\x7b' '\x7d'

def brackets : List Char := ['(', ')', '[', ']', '\x7b', '\x7d']

/-- A text whose brackets are closed in order. Square and curly ones may stay open if `unclosed`. -/
inductive Nested (unclosed : Bool) : List Char → Prop
  | nil : Nested unclosed []
  | plain {c : Char} {cs : List Char} (hc : c ∉ brackets) (h : Nested unclosed cs) :
      Nested unclosed (c :: cs)
  | group {o c : Char} {cs ds : List Char} (hp : Pair o c) (h : Nested unclosed cs)
      (hd : Nested unclosed ds) : Nested unclosed (o :: (cs ++ c :: ds))
  | left {o : Char} {cs : List Char} (hu : unclosed) (ho : o = '[' ∨ o = '\x7b')
      (h : Nested unclosed cs) : Nested unclosed (o :: cs)

/-- A comma stands where all brackets before it are closed. -/
def HasOuterComma (cs : List Char) : Prop := ∃ a b, cs = a ++ ',' :: b ∧ Nested false a

/-- An argument of a call. That at the cursor may be `unclosed`. -/
structure Argument (unclosed : Bool) (cs : List Char) : Prop where
  nested : Nested unclosed cs
  comma : ¬ HasOuterComma cs

namespace Nested
variable {unclosed : Bool} {cs ds : List Char}

theorem append (h : Nested unclosed cs) (hd : Nested unclosed ds) : Nested unclosed (cs ++ ds) := by
  induction h with
  | nil => exact hd
  | plain hc _ ih => exact .plain hc ih
  | group hp h _ _ ih =>
    rw [List.cons_append, List.append_assoc, List.cons_append]
    exact .group hp h ih
  | left hu ho _ ih => exact .left hu ho ih

theorem mono (h : Nested false cs) : Nested unclosed cs := by
  induction h with
  | nil => exact .nil
  | plain hc _ ih => exact .plain hc ih
  | group hp _ _ ih ihd => exact .group hp ih ihd
  | left hu => cases hu

end Nested

section Back
variable {unclosed : Bool} {cs : List Char}

/-- Looking back, no parenthesis in a text is found that is closed in it. -/
theorem unclosed?_nested (h : Nested unclosed cs) (closed : Nat) (after before : List Char) :
    unclosed? closed after (cs.reverse ++ before) = unclosed? closed (cs ++ after) before := by
  induction h generalizing closed after before with
  | nil => rfl
  | @plain c cs hc _ ih =>
    have hn : c ≠ '(' ∧ c ≠ ')' := by
      constructor
      all_goals
        rintro rfl
        exact hc (by decide)
    simp [ih, unclosed?, hn]
  | group hp _ _ ih ihd =>
    cases hp <;> simp [ih, ihd, unclosed?]
  | left _ ho _ ih =>
    rcases ho with rfl | rfl
    all_goals simp [ih, unclosed?]

end Back

section Commas
variable {unclosed : Bool} {c o : Char} {cs : List Char}

theorem outerCommas_plain (hc : c ∉ brackets) (n : Nat) (cs : List Char) :
    outerCommas n (c :: cs) = (if c = ',' ∧ n = 0 then 1 else 0) + outerCommas n cs := by
  simp only [brackets, List.mem_cons, List.not_mem_nil, or_false, not_or] at hc
  simp [outerCommas, hc]

theorem outerCommas_opening (hp : Pair o c) (n : Nat) (cs : List Char) :
    outerCommas n (o :: cs) = outerCommas (n + 1) cs := by
  cases hp <;> simp [outerCommas]

theorem outerCommas_closing (hp : Pair o c) (n : Nat) (cs : List Char) :
    outerCommas (n + 1) (c :: cs) = outerCommas n cs := by
  cases hp <;> simp [outerCommas]

theorem exists_pair (ho : o = '[' ∨ o = '\x7b') : ∃ c, Pair o c := by
  rcases ho with rfl | rfl
  · exact ⟨']', .square⟩
  · exact ⟨'\x7d', .curly⟩

/-- Inside a bracket no comma of a nested text counts. The text leaves `m` brackets open. -/
theorem outerCommas_inside (h : Nested unclosed cs) :
    ∃ m, (m = 0 → Nested false cs) ∧ (unclosed = false → m = 0) ∧
      ∀ n ds, outerCommas (n + 1) (cs ++ ds) = outerCommas (n + 1 + m) ds := by
  induction h with
  | nil => exact ⟨0, fun _ => .nil, fun _ => rfl, fun _ _ => rfl⟩
  | plain hc _ ih =>
    obtain ⟨m, hm, hu, he⟩ := ih
    refine ⟨m, fun h => .plain hc (hm h), hu, fun n ds => ?_⟩
    rw [List.cons_append, outerCommas_plain hc, if_neg (by omega), Nat.zero_add, he]
  | group hp _ _ ih ihd =>
    obtain ⟨m, hm, hu, he⟩ := ih
    obtain ⟨k, hk, hv, hf⟩ := ihd
    refine ⟨m + k, fun h => .group hp (hm (by omega)) (hk (by omega)), fun h => ?_, fun n ds => ?_⟩
    · rw [hu h, hv h]
    · have hn : n + 1 + 1 + m = (n + m) + 1 + 1 := by omega
      rw [List.cons_append, List.append_assoc, outerCommas_opening hp, he, hn, List.cons_append,
        outerCommas_closing hp, hf]
      congr 1
      omega
  | left hu ho _ ih =>
    obtain ⟨c, hp⟩ := exists_pair ho
    obtain ⟨m, -, -, he⟩ := ih
    refine ⟨m + 1, nofun, fun h => absurd hu (by simp [h]), fun n ds => ?_⟩
    rw [List.cons_append, outerCommas_opening hp, he]
    congr 1
    omega

theorem not_hasOuterComma_of_append {a : List Char} (ha : Nested false a)
    (h : ¬ HasOuterComma (a ++ cs)) : ¬ HasOuterComma cs := by
  rintro ⟨b, d, rfl, hb⟩
  exact h ⟨a ++ b, d, (List.append_assoc a b _).symm, ha.append hb⟩

/-- Outside all brackets no comma of an argument counts. The argument leaves `m` brackets open. -/
theorem outerCommas_outside (h : Nested unclosed cs) (hc : ¬ HasOuterComma cs) :
    ∃ m, (unclosed = false → m = 0) ∧
      ∀ ds, outerCommas 0 (cs ++ ds) = outerCommas m ds := by
  induction h with
  | nil => exact ⟨0, fun _ => rfl, fun _ => rfl⟩
  | @plain c cs hb _ ih =>
    have hn : c ≠ ',' := by
      rintro rfl
      exact hc ⟨[], cs, rfl, .nil⟩
    obtain ⟨m, hu, he⟩ := ih (not_hasOuterComma_of_append (.plain hb .nil) hc)
    refine ⟨m, hu, fun ds => ?_⟩
    rw [List.cons_append, outerCommas_plain hb, if_neg fun h => hn h.1, Nat.zero_add, he]
  | @group o c cs ds hp h hd _ ihd =>
    obtain ⟨m, hm, hu, he⟩ := outerCommas_inside h
    have hs (es : List Char) :
        outerCommas 0 (o :: (cs ++ c :: ds) ++ es) = outerCommas m (ds ++ es) := by
      rw [List.cons_append, List.append_assoc, outerCommas_opening hp, he, Nat.zero_add,
        Nat.add_comm, List.cons_append, outerCommas_closing hp]
    cases m with
    | zero =>
      have ho : ¬ HasOuterComma ds := by
        refine not_hasOuterComma_of_append (.group hp (hm rfl) .nil) ?_
        simpa using hc
      obtain ⟨k, hv, hf⟩ := ihd ho
      exact ⟨k, hv, fun es => (hs es).trans (hf es)⟩
    | succ m =>
      -- a bracket is still open, so the commas behind it do not count either
      obtain ⟨k, -, hv, hf⟩ := outerCommas_inside hd
      exact ⟨m + 1 + k, fun h => absurd (hu h) (by omega), fun es => (hs es).trans (hf m es)⟩
  | left hu ho h _ =>
    obtain ⟨c, hp⟩ := exists_pair ho
    obtain ⟨m, -, -, he⟩ := outerCommas_inside h
    refine ⟨0 + 1 + m, fun h => absurd hu (by simp [h]), fun ds => ?_⟩
    rw [List.cons_append, outerCommas_opening hp, he]

theorem outerCommas_join {last : List Char} {init : List (List Char)}
    (hi : ∀ a ∈ init, Argument false a) (hl : Argument true last) :
    outerCommas 0 (join [','] (init ++ [last])) = init.length := by
  induction init with
  | nil =>
    obtain ⟨m, -, he⟩ := outerCommas_outside hl.nested hl.comma
    simpa [join, outerCommas] using he []
  | cons a init ih =>
    obtain ⟨ha, hi⟩ := List.forall_mem_cons.1 hi
    obtain ⟨m, hm, he⟩ := outerCommas_outside ha.nested ha.comma
    rw [List.cons_append, join_cons (by simp), he, hm rfl]
    change outerCommas 0 (',' :: join [','] (init ++ [last])) = init.length + 1
    rw [outerCommas_plain (by decide), if_pos ⟨rfl, rfl⟩, ih hi, Nat.add_comm]

theorem nested_join {last : List Char} {init : List (List Char)}
    (hi : ∀ a ∈ init, Argument false a) (hl : Argument true last) :
    Nested true (join [','] (init ++ [last])) := by
  induction init with
  | nil => simpa [join] using hl.nested
  | cons a init ih =>
    obtain ⟨ha, hi⟩ := List.forall_mem_cons.1 hi
    rw [List.cons_append, join_cons (by simp)]
    exact ha.nested.mono.append (.plain (by decide) (ih hi))

end Commas

/-- A text whose parentheses are closed in order, whatever else is in it. -/
inductive Matched : List Char → Prop
  | nil : Matched []
  | plain {c : Char} {cs : List Char} (hc : c ≠ '(' ∧ c ≠ ')') (h : Matched cs) : Matched (c :: cs)
  | group {cs ds : List Char} (h : Matched cs) (hd : Matched ds) : Matched ('(' :: (cs ++ ')' :: ds))

def AllClosed (cs : List Char) : Prop :=
  ∀ a b, cs = a ++ '(' :: b → ∃ m d, b = m ++ ')' :: d ∧ Matched m

section Closed
variable {cs : List Char}

theorem Matched.count_eq (h : Matched cs) : cs.count '(' = cs.count ')' := by
  induction h with
  | nil => rfl
  | plain hc _ ih => simpa [hc.1, hc.2] using ih
  | group _ _ ih ihd =>
    simp [ih, ihd]
    omega

theorem AllClosed.count_le {a b : List Char} (h : AllClosed (a ++ b)) :
    b.count '(' ≤ b.count ')' := by
  induction hn : b.length using Nat.strong_induction_on generalizing a b with
  | _ n ih =>
    cases b with
    | nil => exact Nat.le_refl 0
    | cons c b =>
      by_cases hc : c = '('
      · subst hc
        obtain ⟨m, d, rfl, hm⟩ := h a b rfl
        have hd : d.count '(' ≤ d.count ')' := by
          refine ih d.length ?_ (a := a ++ '(' :: (m ++ [')'])) ?_ rfl
          · simp at hn
            omega
          · simpa using h
        have he := hm.count_eq
        simp
        omega
      · have hb : b.count '(' ≤ b.count ')' := by
          refine ih b.length ?_ (a := a ++ [c]) ?_ rfl
          · simp at hn
            omega
          · simpa using h
        rw [List.count_cons_of_ne hc]
        exact hb.trans List.count_le_count_cons

theorem unclosed?_eq_none {closed : Nat} {after : List Char}
    (h : ∀ p, p <+: cs → p.count '(' ≤ closed + p.count ')') : unclosed? closed after cs = none := by
  induction cs generalizing closed after with
  | nil => rfl
  | cons c cs ih =>
    have hp (p : List Char) (hp : p <+: cs) := h (c :: p) (List.cons_prefix_cons.2 ⟨rfl, hp⟩)
    by_cases hc : c = ')'
    · subst hc
      simp only [unclosed?, if_true]
      refine ih fun p hq => ?_
      have := hp p hq
      simp at this
      omega
    · by_cases ho : c = '('
      · subst ho
        cases closed with
        | zero => simpa using hp [] List.nil_prefix
        | succ n =>
          simp only [unclosed?, if_true]
          refine ih fun p hq => ?_
          have := hp p hq
          simp at this
          omega
      · simp only [unclosed?, hc, ho, if_false]
        refine ih fun p hq => ?_
        simpa [List.count_cons_of_ne, hc, ho] using hp p hq

theorem unclosed?_of_allClosed (h : AllClosed cs) : unclosed? 0 [] cs.reverse = none := by
  refine unclosed?_eq_none fun p hp => ?_
  obtain ⟨t, ht⟩ := hp
  have hr : AllClosed (t.reverse ++ p.reverse) := by
    rwa [← List.reverse_append, ht, List.reverse_reverse]
  simpa using hr.count_le

end Closed

theorem bytes_reverse (cs : List Char) : bytes cs.reverse = bytes cs := by
  induction cs with
  | nil => rfl
  | cons c cs ih => simp [ih, Nat.add_comm]

/-- Behind a name, its parenthesis and some arguments, of which the last one may still be going on,
the call is that of the whole name, and the argument the last one. What stands before the name does
not matter unless it goes on with it, and neither does what stands after the cursor. Where all
parentheses before the cursor are closed there is no call. -/
theorem callAt?_arguments :
    (∀ (lead name last rest : List Char) (init : List (List Char)),
      (∀ c ∈ lead.getLast?, isChainChar c = false) → name ≠ [] → (∀ c ∈ name, isChainChar c) →
      (∀ a ∈ init, Argument false a) → Argument true last →
      let text := lead ++ name ++ '(' :: join [','] (init ++ [last])
      callAt? (text ++ rest) (bytes text) = some ⟨name, init.length, bytes (lead ++ name)⟩) ∧
    ∀ (cs : List Char) (cursor : Nat), AllClosed (splitFloor cs cursor).1 →
      callAt? cs cursor = none := by
  refine ⟨fun lead name last rest init hlead hne hname hi hl => ?_, fun cs cursor h => ?_⟩
  · intro text
    have hback : unclosed? 0 [] text.reverse =
        some ((lead ++ name).reverse, join [','] (init ++ [last])) := by
      have hn := unclosed?_nested (nested_join hi hl) 0 [] ('(' :: (lead ++ name).reverse)
      simpa [text, unclosed?] using hn
    have htake : ((lead ++ name).reverse.takeWhile isChainChar).reverse = name := by
      rw [List.reverse_append, takeWhile_append_of_stop (by simpa using hname) (by simpa using hlead),
        List.reverse_reverse]
    rw [callAt?, splitFloor_bytes, hback]
    simp only [htake, outerCommas_join hi hl, bytes_reverse]
    simp [hne]
  · rw [callAt?, unclosed?_of_allClosed h]

theorem Nested.mem_of_pair {o c : Char} {cs : List Char} (h : Nested false (o :: cs)) (hp : Pair o c) :
    c ∈ cs := by
  cases h with
  | plain hc => cases hp <;> exact absurd (by decide) hc
  | group hq => cases hp <;> cases hq <;> simp
  | left hu => cases hu

/-- A list and half a record as the arguments, with an open parenthesis before the name; and a call
that is closed, with one parenthesis more. -/
theorem callAt?_arguments_open :
    callAt? "é*(a.b([1,(2)],\x7bc,d, e)".toList 20 = some ⟨['a', '.', 'b'], 1, 7⟩ ∧
      callAt? "f(1)) + 2".toList 9 = none := by
  have h1 : Nested false ('[' :: (['1', ',', '(', '2', ')'] ++ ']' :: [])) :=
    .group .square (.plain (by decide) (.plain (by decide)
      (.group .round (.plain (by decide) .nil) .nil))) .nil
  have h2 : Nested true ['\x7b', 'c', ',', 'd'] :=
    .left rfl (.inr rfl) (.plain (by decide) (.plain (by decide) (.plain (by decide) .nil)))
  have ha : ∀ a ∈ [['[', '1', ',', '(', '2', ')', ']']], Argument false a := by
    refine List.forall_mem_singleton.2 ⟨h1, ?_⟩
    rintro ⟨a, b, he, hn⟩
    obtain ⟨rfl, -⟩ : a = ['[', '1'] ∧ b = ['(', '2', ')', ']'] := by
      simpa [List.cons_eq_append_iff] using he
    exact absurd (hn.mem_of_pair .square) (by decide)
  have hl : Argument true ['\x7b', 'c', ',', 'd'] := by
    refine ⟨h2, ?_⟩
    rintro ⟨a, b, he, hn⟩
    obtain ⟨rfl, -⟩ : a = ['\x7b', 'c'] ∧ b = ['d'] := by
      simpa [List.cons_eq_append_iff] using he
    exact absurd (hn.mem_of_pair .curly) (by decide)
  have hc : AllClosed ['f', '(', '1', ')', ')', ' ', '+', ' ', '2'] := by
    intro a b he
    obtain ⟨-, rfl⟩ : a = ['f'] ∧ b = ['1', ')', ')', ' ', '+', ' ', '2'] := by
      simpa [List.cons_eq_append_iff] using he
    exact ⟨['1'], [')', ' ', '+', ' ', '2'], rfl, .plain (by decide) .nil⟩
  have hlead : ∀ c ∈ ['é', '*', '('].getLast?, isChainChar c = false := by
    rintro c ⟨rfl⟩
    decide +kernel
  have hname : ∀ c ∈ ['a', '.', 'b'], isChainChar c := List.all_eq_true.1 (by decide +kernel)
  refine ⟨?_, callAt?_arguments.2 ['f', '(', '1', ')', ')', ' ', '+', ' ', '2'] 9 hc⟩
  exact callAt?_arguments.1 ['é', '*', '('] ['a', '.', 'b'] ['\x7b', 'c', ',', 'd']
    [',', ' ', 'e', ')'] [['[', '1', ',', '(', '2', ')', ']']] hlead (by decide) hname ha hl

end Tether.Complete
