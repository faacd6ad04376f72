import Tether.Proofs.Expr.Grammar
import Mathlib.Data.List.Forall2

/-! Where tokens stand in a text does not matter to what is read from them: the same tokens give the
same tree or the same fault (`Expr.alike_ofTokens`). -/
namespace Tether

/-- The same tokens, not necessarily in the same places. -/
abbrev SameTokens : List Token → List Token → Prop := List.Forall₂ fun t u => t.tok = u.tok

theorem sameTokens_iff {ts us : List Token} :
    SameTokens ts us ↔ ts.map Token.tok = us.map Token.tok := by
  rw [← List.forall₂_eq_eq_eq, List.forall₂_map_left_iff, List.forall₂_map_right_iff]

theorem SameTokens.symm {ts us : List Token} (h : SameTokens ts us) : SameTokens us ts :=
  h.flip.imp fun _ _ => Eq.symm

theorem exists_of_sameTokens_cons {tok : Tok} {i : Nat} {l : List Char} {ts us : List Token}
    (h : SameTokens (⟨tok, i, l⟩ :: ts) us) :
    ∃ j k vs, us = ⟨tok, j, k⟩ :: vs ∧ SameTokens ts vs := by
  cases h with
  | @cons _ u _ vs ht h => exact ⟨u.start, u.lexeme, vs, by cases ht; rfl, h⟩

/-- Two outcomes that are related, or the same fault in two places. -/
inductive Alike {α : Type} (r : α → α → Prop) : Except SyntaxError α → Except SyntaxError α → Prop
  | ok {a b : α} (h : r a b) : Alike r (.ok a) (.ok b)
  | error {e f : SyntaxError} (h : e.fault = f.fault) : Alike r (.error e) (.error f)

theorem Alike.bind {α β : Type} {r : α → α → Prop} {s : β → β → Prop} {x y : Except SyntaxError α}
    {f g : α → Except SyntaxError β} (h : Alike r x y) (hf : ∀ a b, r a b → Alike s (f a) (g b)) :
    Alike s (x >>= f) (y >>= g) := by
  cases h with
  | ok h => exact hf _ _ h
  | error h => exact .error h

theorem Alike.eq_ok_iff {α : Type} {x y : Except SyntaxError α} (h : Alike Eq x y) (a : α) :
    x = .ok a ↔ y = .ok a := by
  cases h with
  | ok h => rw [h]
  | error h => simp

namespace Parser
variable {stop stop' : Nat} {α : Type} {ts us : List Token}

def SameReading (x y : α × List Token) : Prop := x.1 = y.1 ∧ SameTokens x.2 y.2

def Uniform (p q : Parse α) : Prop :=
  ∀ ts us, SameTokens ts us → Alike SameReading (p ts) (q us)

theorem alike_expect (s : Sym) (h : SameTokens ts us) :
    Alike SameTokens (expect stop s ts) (expect stop' s us) := by
  cases h with
  | nil => exact .error rfl
  | @cons t u ts us ht h =>
    unfold expect
    dsimp only
    rw [← ht]
    split
    · split
      · exact .ok h
      · exact .error rfl
    · exact .error rfl

theorem starts_eq (s : Sym) (h : SameTokens ts us) : starts s ts = starts s us := by
  cases h with
  | nil => rfl
  | @cons t u ts us ht h =>
    obtain ⟨tok, _, _⟩ := t
    obtain ⟨_, _, _⟩ := u
    cases ht
    cases tok <;> rfl

theorem unaryOp?_eq (h : SameTokens ts us) : unaryOp? ts = unaryOp? us := by
  cases h with
  | nil => rfl
  | @cons t u ts us ht h =>
    obtain ⟨tok, _, _⟩ := t
    obtain ⟨_, _, _⟩ := u
    cases ht
    cases tok <;> rfl

theorem binaryOp?_eq (rank : Nat) (h : SameTokens ts us) :
    binaryOp? rank ts = binaryOp? rank us := by
  cases h with
  | nil => rfl
  | @cons t u ts us ht h =>
    obtain ⟨tok, _, _⟩ := t
    obtain ⟨_, _, _⟩ := u
    cases ht
    cases tok <;> rfl

theorem sameTokens_tail (h : SameTokens ts us) : SameTokens ts.tail us.tail := by
  cases h with
  | nil => exact .nil
  | cons ht h => exact h

theorem Alike.read {β : Type} {r : β → β → Prop} {x y : Except SyntaxError (α × List Token)}
    {f g : α × List Token → Except SyntaxError β} (h : Alike SameReading x y)
    (hf : ∀ a ts us, SameTokens ts us → Alike r (f (a, ts)) (g (a, us))) :
    Alike r (x >>= f) (y >>= g) := by
  refine h.bind fun a b hab => ?_
  obtain ⟨a, ts⟩ := a
  obtain ⟨b, us⟩ := b
  obtain ⟨rfl, h⟩ := hab
  exact hf a ts us h

theorem uniform_items {item item' : Parse Expr} (hi : Uniform item item') (close : Sym) (n : Nat) :
    Uniform (items stop item close n) (items stop' item' close n) := by
  induction n with
  | zero => exact fun ts us h => .error rfl
  | succ n ih =>
    intro ts us h
    refine Alike.read (hi ts us h) fun e ts us h => ?_
    dsimp only
    rw [starts_eq close h]
    split
    · exact .ok ⟨rfl, sameTokens_tail h⟩
    · refine (alike_expect .comma h).bind fun ts us h => ?_
      exact Alike.read (ih ts us h) fun es ts us h => .ok ⟨rfl, h⟩

theorem uniform_commaList {item item' : Parse Expr} (hi : Uniform item item') (close : Sym) :
    Uniform (commaList stop item close) (commaList stop' item' close) := by
  intro ts us h
  unfold commaList
  rw [starts_eq close h, h.length_eq]
  split
  · exact .ok ⟨rfl, sameTokens_tail h⟩
  · exact uniform_items hi close _ ts us h

theorem uniform_dottedName : Uniform dottedName dottedName := by
  intro ts
  fun_induction dottedName ts with
  | case1 i l name j k ts ih =>
    intro us h
    obtain ⟨_, _, _, rfl, h'⟩ := exists_of_sameTokens_cons h
    obtain ⟨_, _, us, rfl, hs⟩ := exists_of_sameTokens_cons h'
    exact Alike.read (ih us hs) fun names ts us h => .ok ⟨rfl, h⟩
  | case2 i l ts hn =>
    intro us h
    obtain ⟨_, _, us, rfl, h'⟩ := exists_of_sameTokens_cons h
    cases ts with
    | nil =>
      cases h'
      exact .error rfl
    | cons t ts =>
      obtain ⟨tok, _, _⟩ := t
      obtain ⟨_, _, us, rfl, -⟩ := exists_of_sameTokens_cons h'
      cases tok with
      | ident name => exact absurd rfl (hn _ _ _ _)
      | _ => exact .error rfl
  | case3 ts hd hn =>
    intro us h
    cases ts with
    | nil =>
      cases h
      exact .ok ⟨rfl, .nil⟩
    | cons t ts =>
      obtain ⟨tok, _, _⟩ := t
      obtain ⟨_, _, us, rfl, -⟩ := exists_of_sameTokens_cons h
      cases tok with
      | sym s =>
        cases s with
        | dot => exact absurd rfl (hn _ _ _)
        | _ => exact .ok ⟨rfl, h⟩
      | _ => exact .ok ⟨rfl, h⟩

theorem uniform_primary {expr expr' : Parse Expr} (he : Uniform expr expr') :
    Uniform (primary stop expr) (primary stop' expr') := by
  intro ts us h
  cases h with
  | nil => exact .error rfl
  | @cons t u ts us ht h =>
    unfold primary
    dsimp only
    rw [← ht]
    split
    case h_6 => exact Alike.read (uniform_dottedName ts us h) fun names ts us h => .ok ⟨rfl, h⟩
    case h_7 =>
      refine Alike.read (he ts us h) fun e ts us h => ?_
      exact (alike_expect .rparen h).bind fun ts us h => .ok ⟨rfl, h⟩
    case h_8 =>
      exact Alike.read (uniform_commaList he .rbracket ts us h) fun es ts us h => .ok ⟨rfl, h⟩
    case h_9 => exact .error rfl
    all_goals exact .ok ⟨rfl, h⟩

structure UniformGrammar (g g' : Grammar) : Prop where
  expr : Uniform g.expr g'.expr
  conditional : Uniform g.conditional g'.conditional
  operand : ∀ r, Uniform (g.operand r) (g'.operand r)
  chain : ∀ r e, Uniform (g.chain r e) (g'.chain r e)
  unary : Uniform g.unary g'.unary
  suffix : ∀ e, Uniform (g.suffix e) (g'.suffix e)

section Level
variable {lower lower' : Option Grammar} (hl : Option.Rel UniformGrammar lower lower')
include hl

theorem alike_descend {β : Type} {read read' : Grammar → Parse β}
    (h : ∀ g g', UniformGrammar g g' → Alike SameReading (read g ts) (read' g' us)) :
    Alike SameReading (descend stop lower read ts) (descend stop' lower' read' us) := by
  cases hl with
  | none => exact .error rfl
  | some hg => exact h _ _ hg

theorem uniform_expr : Uniform (expr stop lower) (expr stop' lower') :=
  fun ts us h => alike_descend hl fun _ _ hg => hg.conditional ts us h

theorem uniform_suffix (e : Expr) : Uniform (suffix stop lower e) (suffix stop' lower' e) := by
  intro ts us h
  unfold suffix
  split
  next i l ts =>
    obtain ⟨_, _, us, rfl, h'⟩ := exists_of_sameTokens_cons h
    refine alike_descend hl fun g g' hg => ?_
    refine Alike.read (uniform_commaList hg.expr .rparen _ _ h') fun args ts us h => ?_
    exact hg.suffix _ ts us h
  next i l ts =>
    obtain ⟨_, _, us, rfl, h'⟩ := exists_of_sameTokens_cons h
    refine alike_descend hl fun g g' hg => ?_
    refine Alike.read (hg.expr _ _ h') fun i ts us h => ?_
    exact (alike_expect .rbracket h).bind fun ts us h => hg.suffix _ ts us h
  next hp hb =>
    split
    next =>
      obtain ⟨_, _, _, rfl, -⟩ := exists_of_sameTokens_cons (SameTokens.symm h)
      exact absurd rfl (hp _ _ _)
    next =>
      obtain ⟨_, _, _, rfl, -⟩ := exists_of_sameTokens_cons (SameTokens.symm h)
      exact absurd rfl (hb _ _ _)
    next => exact .ok ⟨rfl, h⟩

theorem uniform_unary : Uniform (unary stop lower) (unary stop' lower') := by
  intro ts us h
  unfold unary
  rw [unaryOp?_eq h]
  split
  next op =>
    refine Alike.read (alike_descend hl fun g g' hg => hg.unary _ _ (sameTokens_tail h)) ?_
    exact fun e ts us h => .ok ⟨rfl, h⟩
  · refine Alike.read (uniform_primary (uniform_expr hl) ts us h) fun e ts us h => ?_
    exact uniform_suffix hl e ts us h

theorem uniform_chain (rank : Nat) (e : Expr) :
    Uniform (chain stop lower rank e) (chain stop' lower' rank e) := by
  intro ts us h
  unfold chain
  rw [binaryOp?_eq rank h]
  split
  · exact .ok ⟨rfl, h⟩
  · refine alike_descend hl fun g g' hg => ?_
    refine Alike.read (hg.operand _ _ _ (sameTokens_tail h)) fun right ts us h => ?_
    dsimp only
    split
    · exact .ok ⟨rfl, h⟩
    · exact hg.chain _ _ ts us h

theorem uniform_operand (rank : Nat) :
    Uniform (operand stop lower rank) (operand stop' lower' rank) := by
  induction rank with
  | zero => exact uniform_unary hl
  | succ rank ih =>
    intro ts us h
    exact Alike.read (ih ts us h) fun e ts us h => uniform_chain hl (rank + 1) e ts us h

theorem uniform_conditional : Uniform (conditional stop lower) (conditional stop' lower') := by
  intro ts us h
  refine Alike.read (uniform_operand hl 5 ts us h) fun test ts us h => ?_
  dsimp only
  rw [starts_eq .question h]
  split
  · refine Alike.read (uniform_expr hl _ _ (sameTokens_tail h)) fun yes ts us h => ?_
    refine (alike_expect .colon h).bind fun ts us h => ?_
    exact Alike.read (uniform_expr hl ts us h) fun no ts us h => .ok ⟨rfl, h⟩
  · exact .ok ⟨rfl, h⟩

theorem uniformGrammar_level : UniformGrammar (level stop lower) (level stop' lower') :=
  ⟨uniform_expr hl, uniform_conditional hl, uniform_operand hl, uniform_chain hl, uniform_unary hl,
    uniform_suffix hl⟩

end Level

theorem uniformGrammar_grammar (n : Nat) : UniformGrammar (grammar stop n) (grammar stop' n) := by
  induction n with
  | zero => exact uniformGrammar_level .none
  | succ n ih => exact uniformGrammar_level (.some ih)

end Parser

/-- What is read, or what is wrong, does not depend on where the tokens stand. -/
theorem Expr.alike_ofTokens {ts us : List Token} (h : SameTokens ts us) (stop stop' : Nat) :
    Alike Eq (Expr.ofTokens stop ts) (Expr.ofTokens stop' us) := by
  have he : ts.isEmpty = us.isEmpty := by
    cases h <;> rfl
  unfold Expr.ofTokens
  rw [he]
  split
  · exact .error rfl
  · refine Parser.Alike.read ((Parser.uniformGrammar_grammar _).expr ts us h) fun e ts us h => ?_
    cases h with
    | nil => exact .ok rfl
    | cons ht h => exact .error (by rw [ht])

end Tether
