import Tether.Expr.Parser
import Tether.Proofs.Outcome

/-! The grammar of expressions, and that it derives all that is read: `derives_of_ofTokens`. -/
namespace Tether

inductive Operator : Nat → Sym → BinaryOp → Prop
  | mul : Operator 1 .star .mul
  | div : Operator 1 .slash .div
  | rem : Operator 1 .percent .rem
  | add : Operator 2 .plus .add
  | sub : Operator 2 .minus .sub
  | eq : Operator 3 .eq .eq
  | ne : Operator 3 .ne .ne
  | lt : Operator 3 .lt .lt
  | le : Operator 3 .le .le
  | gt : Operator 3 .gt .gt
  | ge : Operator 3 .ge .ge
  | and : Operator 4 .and .and
  | or : Operator 5 .or .or

inductive PrefixOperator : Sym → UnaryOp → Prop
  | neg : PrefixOperator .minus .neg
  | not : PrefixOperator .bang .not

inductive DottedNames : List Token → List String → Prop
  | nil : DottedNames [] []
  | cons {d t : Token} {ts : List Token} {name : String} {names : List String}
      (hd : d.tok = .sym .dot) (ht : t.tok = .ident name) (h : DottedNames ts names) :
      DottedNames (d :: t :: ts) (name :: names)

/-- What the rules are about. The operators of an operand of rank `r` bind as tightly as `r`; one of
rank 0 has prefix operators alone. -/
inductive Part where
  | expr
  | operand (rank : Nat)
  | suffixed
  | primary
  /-- What stands between the brackets of a call or a list. -/
  | arguments
  /-- Expressions with commas between them, one or more. -/
  | items

/-- The tokens that make up a part and the tree they stand for; that of arguments and items is a
list. -/
inductive Derives : Part → List Token → Expr → Prop
  | plain {ts : List Token} {e : Expr} (h : Derives (.operand 5) ts e) : Derives .expr ts e
  | cond {q c : Token} {us vs ws : List Token} {test yes no : Expr} (hq : q.tok = .sym .question)
      (hc : c.tok = .sym .colon) (ht : Derives (.operand 5) us test) (hy : Derives .expr vs yes)
      (hn : Derives .expr ws no) : Derives .expr (us ++ q :: (vs ++ c :: ws)) (.cond test yes no)
  | looser {r : Nat} {ts : List Token} {e : Expr} (h : Derives (.operand r) ts e) :
      Derives (.operand (r + 1)) ts e
  | binary {r : Nat} {s : Sym} {op : BinaryOp} {t : Token} {us vs : List Token} {left right : Expr}
      (ho : Operator (r + 1) s op) (hr : r + 1 ≠ 3) (ht : t.tok = .sym s)
      (hl : Derives (.operand (r + 1)) us left) (hx : Derives (.operand r) vs right) :
      Derives (.operand (r + 1)) (us ++ t :: vs) (.binary op left right)
  | comparison {s : Sym} {op : BinaryOp} {t : Token} {us vs : List Token} {left right : Expr}
      (ho : Operator 3 s op) (ht : t.tok = .sym s) (hl : Derives (.operand 2) us left)
      (hx : Derives (.operand 2) vs right) :
      Derives (.operand 3) (us ++ t :: vs) (.binary op left right)
  | prefixed {s : Sym} {op : UnaryOp} {t : Token} {ts : List Token} {e : Expr}
      (ho : PrefixOperator s op) (ht : t.tok = .sym s) (h : Derives (.operand 0) ts e) :
      Derives (.operand 0) (t :: ts) (.unary op e)
  | unprefixed {ts : List Token} {e : Expr} (h : Derives .suffixed ts e) :
      Derives (.operand 0) ts e
  | unsuffixed {ts : List Token} {e : Expr} (h : Derives .primary ts e) : Derives .suffixed ts e
  | call {l r : Token} {us vs : List Token} {callee : Expr} {args : List Expr}
      (hl : l.tok = .sym .lparen) (hr : r.tok = .sym .rparen) (h : Derives .suffixed us callee)
      (ha : Derives .arguments vs (.list args)) :
      Derives .suffixed (us ++ l :: (vs ++ [r])) (.call callee args)
  | index {l r : Token} {us vs : List Token} {target i : Expr} (hl : l.tok = .sym .lbracket)
      (hr : r.tok = .sym .rbracket) (h : Derives .suffixed us target) (hi : Derives .expr vs i) :
      Derives .suffixed (us ++ l :: (vs ++ [r])) (.index target i)
  | int {t : Token} {n : Int64} (h : t.tok = .int n) : Derives .primary [t] (.int n)
  | float {t : Token} {x : Float} (h : t.tok = .float x) : Derives .primary [t] (.float x)
  | str {t : Token} {s : String} (h : t.tok = .str s) : Derives .primary [t] (.str s)
  | true {t : Token} (h : t.tok = .ident "true") : Derives .primary [t] (.bool true)
  | false {t : Token} (h : t.tok = .ident "false") : Derives .primary [t] (.bool false)
  | path {t : Token} {ts : List Token} {name : String} {names : List String}
      (h : t.tok = .ident name) (ht : name ≠ "true") (hf : name ≠ "false")
      (hn : DottedNames ts names) : Derives .primary (t :: ts) (.path (name :: names))
  | parens {l r : Token} {ts : List Token} {e : Expr} (hl : l.tok = .sym .lparen)
      (hr : r.tok = .sym .rparen) (h : Derives .expr ts e) : Derives .primary (l :: (ts ++ [r])) e
  | list {l r : Token} {ts : List Token} {es : List Expr} (hl : l.tok = .sym .lbracket)
      (hr : r.tok = .sym .rbracket) (h : Derives .arguments ts (.list es)) :
      Derives .primary (l :: (ts ++ [r])) (.list es)
  | none : Derives .arguments [] (.list [])
  | some {ts : List Token} {es : List Expr} (h : Derives .items ts (.list es)) :
      Derives .arguments ts (.list es)
  | one {ts : List Token} {e : Expr} (h : Derives .expr ts e) : Derives .items ts (.list [e])
  | more {c : Token} {us vs : List Token} {e : Expr} {es : List Expr} (hc : c.tok = .sym .comma)
      (h : Derives .expr us e) (hm : Derives .items vs (.list es)) :
      Derives .items (us ++ c :: vs) (.list (e :: es))

theorem operator_iff {r : Nat} {s : Sym} {op : BinaryOp} :
    Operator r s op ↔ s.binary? = some op ∧ op.rank = r := by
  constructor
  · intro h
    cases h <;> exact ⟨rfl, rfl⟩
  · rintro ⟨h, rfl⟩
    cases s <;> cases h <;> constructor

theorem prefixOperator_iff {s : Sym} {op : UnaryOp} : PrefixOperator s op ↔ s.unary? = some op := by
  constructor
  · intro h
    cases h <;> rfl
  · intro h
    cases s <;> cases h <;> constructor

namespace Parser
variable {stop : Nat}

theorem expect_eq_ok {s : Sym} {ts rest : List Token} (h : expect stop s ts = .ok rest) :
    ∃ t, ts = t :: rest ∧ t.tok = .sym s := by
  unfold expect at h
  split at h
  · cases h
  next t ts =>
    split at h
    next s' ht =>
      split at h
      next hs => cases h; exact ⟨t, rfl, hs ▸ ht⟩
      · cases h
    · cases h

theorem starts_eq_true {s : Sym} {ts : List Token} (h : starts s ts) :
    ∃ t rest, ts = t :: rest ∧ t.tok = .sym s := by
  unfold starts at h
  split at h
  next s' i l rest => exact ⟨_, rest, rfl, by simpa using h⟩
  · cases h

theorem descend_eq_ok {α : Type} {lower : Option Grammar} {read : Grammar → Parse α}
    {ts : List Token} {x : α × List Token} (h : descend stop lower read ts = .ok x) :
    ∃ g, lower = some g ∧ read g ts = .ok x := by
  cases lower with
  | none => cases h
  | some g => exact ⟨g, rfl, h⟩

theorem binaryOp?_eq_some {r : Nat} {ts : List Token} {op : BinaryOp}
    (h : binaryOp? r ts = some op) : ∃ t rest s, ts = t :: rest ∧ t.tok = .sym s ∧
      Operator r s op := by
  unfold binaryOp? at h
  split at h
  next s i l rest =>
    obtain ⟨hs, hr⟩ := Option.filter_eq_some_iff.1 h
    exact ⟨_, rest, s, rfl, rfl, operator_iff.2 ⟨hs, by simpa using hr⟩⟩
  · cases h

theorem unaryOp?_eq_some {ts : List Token} {op : UnaryOp} (h : unaryOp? ts = some op) :
    ∃ t rest s, ts = t :: rest ∧ t.tok = .sym s ∧ PrefixOperator s op := by
  unfold unaryOp? at h
  split at h
  next s i l rest => exact ⟨_, rest, s, rfl, rfl, prefixOperator_iff.2 h⟩
  · cases h

def Reads (read : Parse Expr) (p : Part) : Prop :=
  ∀ ts e rest, read ts = .ok (e, rest) → ∃ us, ts = us ++ rest ∧ Derives p us e

/-- What is read goes on with the part `p` that was read before, and makes a `q` of it. -/
def Extends (read : Expr → Parse Expr) (p q : Part) : Prop :=
  ∀ us left ts e rest, Derives p us left → read left ts = .ok (e, rest) →
    ∃ vs, ts = vs ++ rest ∧ Derives q (us ++ vs) e

def leftPart (rank : Nat) : Part := if rank = 3 then .operand 2 else .operand rank

structure Sound (g : Grammar) : Prop where
  expr : Reads g.expr .expr
  conditional : Reads g.conditional .expr
  operand (r : Nat) : Reads (g.operand r) (.operand r)
  chain (r : Nat) : Extends (g.chain (r + 1)) (leftPart (r + 1)) (.operand (r + 1))
  unary : Reads g.unary (.operand 0)
  suffix : Extends g.suffix .suffixed .suffixed

theorem of_items {item : Parse Expr} (hi : Reads item .expr) {close : Sym} {n : Nat}
    {ts rest : List Token} {es : List Expr} (h : items stop item close n ts = .ok (es, rest)) :
    ∃ us c, ts = us ++ c :: rest ∧ c.tok = .sym close ∧ Derives .items us (.list es) := by
  induction n generalizing ts es with
  | zero => cases h
  | succ n ih =>
    obtain ⟨⟨e, ts'⟩, he, hb⟩ := bind_eq_ok.1 h
    obtain ⟨us, rfl, hd⟩ := hi _ _ _ he
    dsimp only at hb
    split at hb
    next hs =>
      obtain ⟨c, ts'', rfl, hc⟩ := starts_eq_true hs
      cases hb
      exact ⟨us, c, rfl, hc, .one hd⟩
    next =>
      obtain ⟨ts'', hx, hm⟩ := bind_eq_ok.1 hb
      obtain ⟨c, rfl, hc⟩ := expect_eq_ok hx
      obtain ⟨⟨es', ts'⟩, hes, hp⟩ := bind_eq_ok.1 hm
      cases hp
      obtain ⟨vs, d, rfl, hcl, hm⟩ := ih hes
      exact ⟨us ++ c :: vs, d, by simp, hcl, .more hc hd hm⟩

theorem of_commaList {item : Parse Expr} (hi : Reads item .expr) {close : Sym}
    {ts rest : List Token} {es : List Expr} (h : commaList stop item close ts = .ok (es, rest)) :
    ∃ us c, ts = us ++ c :: rest ∧ c.tok = .sym close ∧ Derives .arguments us (.list es) := by
  rw [commaList] at h
  split at h
  next hs =>
    obtain ⟨c, ts, rfl, hc⟩ := starts_eq_true hs
    cases h
    exact ⟨[], c, rfl, hc, .none⟩
  next =>
    obtain ⟨us, c, e, hc, hd⟩ := of_items hi h
    exact ⟨us, c, e, hc, .some hd⟩

theorem of_dottedName {ts rest : List Token} {names : List String}
    (h : dottedName ts = .ok (names, rest)) : ∃ us, ts = us ++ rest ∧ DottedNames us names := by
  fun_induction dottedName ts generalizing names with
  | case1 _ _ name _ _ ts ih =>
    obtain ⟨⟨names', rest'⟩, hn, h⟩ := bind_eq_ok.1 h
    cases h
    obtain ⟨us, rfl, hd⟩ := ih hn
    exact ⟨_ :: _ :: us, rfl, .cons rfl rfl hd⟩
  | case2 => cases h
  | case3 ts => cases h; exact ⟨[], rfl, .nil⟩

theorem Reads.primary {expr : Parse Expr} (he : Reads expr .expr) :
    Reads (primary stop expr) .primary := by
  intro ts e rest h
  unfold Parser.primary at h
  split at h
  · cases h
  next t ts =>
    split at h
    next n ht => cases h; exact ⟨[t], rfl, .int ht⟩
    next x ht => cases h; exact ⟨[t], rfl, .float ht⟩
    next s ht => cases h; exact ⟨[t], rfl, .str ht⟩
    next ht => cases h; exact ⟨[t], rfl, .true ht⟩
    next ht => cases h; exact ⟨[t], rfl, .false ht⟩
    next name htrue hfalse ht =>
      obtain ⟨⟨names, ts'⟩, hn, h⟩ := bind_eq_ok.1 h
      cases h
      obtain ⟨us, rfl, hd⟩ := of_dottedName hn
      exact ⟨t :: us, rfl, .path ht htrue hfalse hd⟩
    next ht =>
      obtain ⟨⟨e', ts'⟩, hx, h⟩ := bind_eq_ok.1 h
      obtain ⟨ts'', hc, h⟩ := bind_eq_ok.1 h
      cases h
      obtain ⟨us, rfl, hd⟩ := he _ _ _ hx
      obtain ⟨r, rfl, hr⟩ := expect_eq_ok hc
      exact ⟨t :: (us ++ [r]), by simp, .parens ht hr hd⟩
    next ht =>
      obtain ⟨⟨es, ts'⟩, hx, h⟩ := bind_eq_ok.1 h
      cases h
      obtain ⟨us, r, rfl, hr, hd⟩ := of_commaList he hx
      exact ⟨t :: (us ++ [r]), by simp, .list ht hr hd⟩
    · cases h

/-- What stands before an operator of a rank is an operand of that rank itself. -/
theorem operand_of_leftPart {r : Nat} {ts : List Token} {e : Expr}
    (h : Derives (leftPart (r + 1)) ts e) : Derives (.operand (r + 1)) ts e := by
  rw [leftPart] at h
  split at h
  next hr =>
    obtain rfl : r = 2 := by omega
    exact .looser h
  · exact h

section Level
variable {lower : Option Grammar} (hl : ∀ g, lower = some g → Sound g)
include hl

theorem sound_expr : Reads (expr stop lower) .expr := by
  intro ts e rest h
  obtain ⟨g, hg, hx⟩ := descend_eq_ok h
  exact (hl g hg).conditional ts e rest hx

theorem sound_suffix : Extends (suffix stop lower) .suffixed .suffixed := by
  intro us target ts e rest ht h
  unfold suffix at h
  split at h
  next i l ts =>
    obtain ⟨g, hg, hx⟩ := descend_eq_ok h
    obtain ⟨⟨args, ts'⟩, ha, hs⟩ := bind_eq_ok.1 hx
    obtain ⟨vs, r, hts, hr, hd⟩ := of_commaList (hl g hg).expr ha
    have hc := Derives.call (l := ⟨.sym .lparen, i, l⟩) rfl hr ht hd
    obtain ⟨ws, rfl, hw⟩ := (hl g hg).suffix _ _ _ _ _ hc hs
    rw [List.tail_cons] at hts
    subst hts
    exact ⟨⟨.sym .lparen, i, l⟩ :: (vs ++ r :: ws), by simp, by simpa using hw⟩
  next i l ts =>
    obtain ⟨g, hg, hx⟩ := descend_eq_ok h
    obtain ⟨⟨j, ts'⟩, hj, hx⟩ := bind_eq_ok.1 hx
    obtain ⟨ts'', hr, hs⟩ := bind_eq_ok.1 hx
    obtain ⟨vs, hts, hd⟩ := (hl g hg).expr _ _ _ hj
    obtain ⟨r, rfl, hrt⟩ := expect_eq_ok hr
    have hi := Derives.index (l := ⟨.sym .lbracket, i, l⟩) rfl hrt ht hd
    obtain ⟨ws, rfl, hw⟩ := (hl g hg).suffix _ _ _ _ _ hi hs
    rw [List.tail_cons] at hts
    subst hts
    exact ⟨⟨.sym .lbracket, i, l⟩ :: (vs ++ r :: ws), by simp, by simpa using hw⟩
  · cases h
    exact ⟨[], rfl, by simpa using ht⟩

theorem sound_unary : Reads (unary stop lower) (.operand 0) := by
  intro ts e rest h
  rw [unary] at h
  split at h
  next op ho =>
    obtain ⟨⟨x, ts'⟩, hx, hr⟩ := bind_eq_ok.1 h
    obtain ⟨t, ts, s, rfl, ht, hs⟩ := unaryOp?_eq_some ho
    obtain ⟨g, hg, hu⟩ := descend_eq_ok hx
    obtain ⟨us, hts, hd⟩ := (hl g hg).unary _ _ _ hu
    cases hr
    rw [List.tail_cons] at hts
    exact ⟨t :: us, by simp [hts], .prefixed hs ht hd⟩
  next =>
    obtain ⟨⟨x, ts'⟩, hp, hs⟩ := bind_eq_ok.1 h
    obtain ⟨us, rfl, hd⟩ := Reads.primary (sound_expr hl) _ _ _ hp
    obtain ⟨vs, rfl, he⟩ := sound_suffix hl _ _ _ _ _ (.unsuffixed hd) hs
    exact ⟨us ++ vs, by simp, .unprefixed he⟩

theorem sound_chain (r : Nat) :
    Extends (chain stop lower (r + 1)) (leftPart (r + 1)) (.operand (r + 1)) := by
  intro us left ts e rest hd h
  rw [chain] at h
  split at h
  next =>
    cases h
    exact ⟨[], rfl, by simpa using operand_of_leftPart hd⟩
  next op ho =>
    obtain ⟨t, ts, s, rfl, ht, hs⟩ := binaryOp?_eq_some ho
    obtain ⟨g, hg, hx⟩ := descend_eq_ok h
    obtain ⟨⟨right, ts'⟩, hr, hc⟩ := bind_eq_ok.1 hx
    obtain ⟨vs, hts, hv⟩ := (hl g hg).operand r _ _ _ hr
    rw [List.tail_cons] at hts
    subst hts
    dsimp only at hc
    rw [leftPart] at hd
    by_cases h3 : r + 1 = 3
    · obtain rfl : r = 2 := by omega
      rw [if_pos rfl] at hd hc
      cases hc
      exact ⟨t :: vs, by simp, .comparison hs ht hd hv⟩
    · rw [if_neg h3] at hd hc
      have hb : Derives (leftPart (r + 1)) (us ++ t :: vs) (.binary op left right) := by
        rw [leftPart, if_neg h3]
        exact .binary hs h3 ht hd hv
      obtain ⟨ws, rfl, hw⟩ := (hl g hg).chain r _ _ _ _ _ hb hc
      exact ⟨t :: (vs ++ ws), by simp, by simpa using hw⟩

theorem sound_operand (r : Nat) : Reads (operand stop lower r) (.operand r) := by
  induction r with
  | zero => exact sound_unary hl
  | succ r ih =>
    intro ts e rest h
    obtain ⟨⟨left, ts'⟩, ho, hc⟩ := bind_eq_ok.1 h
    obtain ⟨us, rfl, hd⟩ := ih _ _ _ ho
    have hd' : Derives (leftPart (r + 1)) us left := by
      rw [leftPart]
      split
      next hr =>
        obtain rfl : r = 2 := by omega
        exact hd
      · exact .looser hd
    obtain ⟨vs, rfl, hv⟩ := sound_chain hl r _ _ _ _ _ hd' hc
    exact ⟨us ++ vs, by simp, hv⟩

theorem sound_conditional : Reads (conditional stop lower) .expr := by
  intro ts e rest h
  obtain ⟨⟨test, ts'⟩, ht, hq⟩ := bind_eq_ok.1 h
  obtain ⟨us, rfl, hd⟩ := sound_operand hl 5 _ _ _ ht
  dsimp only at hq
  split at hq
  next hs =>
    obtain ⟨q, ts', rfl, hqt⟩ := starts_eq_true hs
    obtain ⟨⟨yes, ts''⟩, hy, hc⟩ := bind_eq_ok.1 hq
    obtain ⟨vs, hts, hdy⟩ := sound_expr hl _ _ _ hy
    obtain ⟨ts₁, hx, hn⟩ := bind_eq_ok.1 hc
    obtain ⟨c, rfl, hct⟩ := expect_eq_ok hx
    obtain ⟨⟨no, ts₂⟩, hno, he⟩ := bind_eq_ok.1 hn
    obtain ⟨ws, rfl, hdn⟩ := sound_expr hl _ _ _ hno
    cases he
    rw [List.tail_cons] at hts
    subst hts
    exact ⟨us ++ q :: (vs ++ c :: ws), by simp, .cond hqt hct hd hdy hdn⟩
  next =>
    cases hq
    exact ⟨us, rfl, .plain hd⟩

theorem sound_level : Sound (level stop lower) where
  expr := sound_expr hl
  conditional := sound_conditional hl
  operand := sound_operand hl
  chain := sound_chain hl
  unary := sound_unary hl
  suffix := sound_suffix hl

end Level

theorem sound_grammar (n : Nat) : Sound (grammar stop n) := by
  induction n with
  | zero => exact sound_level (by simp)
  | succ n ih => exact sound_level (by rintro g ⟨⟩; exact ih)

end Parser

theorem Expr.expr_of_ofTokens {stop : Nat} {ts : List Token} {e : Expr}
    (h : Expr.ofTokens stop ts = .ok e) :
    (Parser.grammar stop Parser.maxNesting).expr ts = .ok (e, []) := by
  rw [Expr.ofTokens] at h
  split at h
  · cases h
  · obtain ⟨⟨x, rest⟩, hx, hr⟩ := bind_eq_ok.1 h
    cases rest with
    | nil => cases hr; exact hx
    | cons t rest => cases hr

theorem Expr.derives_of_ofTokens {stop : Nat} {ts : List Token} {e : Expr}
    (h : Expr.ofTokens stop ts = .ok e) : Derives .expr ts e := by
  have hx := Expr.expr_of_ofTokens h
  obtain ⟨us, rfl, hd⟩ := (Parser.sound_grammar Parser.maxNesting).expr _ _ _ hx
  rwa [List.append_nil]

end Tether
