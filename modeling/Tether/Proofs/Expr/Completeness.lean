import Tether.Proofs.Expr.Grammar

/-! What the grammar derives is read, up to the limit of nesting: `Expr.ofTokens_grammar`. A part is
read to its end only when the next token cannot go on with it, and operators and suffixes are read
from the left, so an operand in front of more of them leaves the reader in the middle of a chain. -/
namespace Tether

def Part.continuedBy : Part → Sym → Bool
  | .primary, s => s = .dot
  | .suffixed, s => s = .dot || s = .lparen || s = .lbracket
  | .operand r, s => s = .dot || s = .lparen || s = .lbracket || s.binary?.any (·.rank ≤ r)
  | _, s => s = .dot || s = .lparen || s = .lbracket || s.binary?.isSome || s = .question

def Part.begunBy : Part → Sym → Bool
  | .primary, s | .suffixed, s => s = .lparen || s = .lbracket
  | _, s => s = .lparen || s = .lbracket || s.unary?.isSome

/-- The tokens after a part do not go on with it. -/
def EndsBefore (p : Part) (rest : List Token) : Prop :=
  ∀ t us s, rest = t :: us → t.tok = .sym s → p.continuedBy s = false

def Begins (p : Part) (ts : List Token) : Prop :=
  ∃ t us, ts = t :: us ∧ ∀ s, t.tok = .sym s → p.begunBy s

theorem endsBefore_cons {p : Part} {t : Token} {us : List Token} {s : Sym} (ht : t.tok = .sym s)
    (h : p.continuedBy s = false) : EndsBefore p (t :: us) := by
  rintro t' us' s' ⟨rfl, rfl⟩ hs
  rw [ht] at hs
  cases hs
  exact h

theorem EndsBefore.mono {p q : Part} {rest : List Token} (h : EndsBefore q rest)
    (hpq : ∀ s, q.continuedBy s = false → p.continuedBy s = false) : EndsBefore p rest :=
  fun t us s hr ht => hpq s (h t us s hr ht)

theorem EndsBefore.primary {rest : List Token} (h : EndsBefore .suffixed rest) :
    EndsBefore .primary rest := by
  refine h.mono fun s hs => ?_
  simp only [Part.continuedBy, Bool.or_eq_false_iff] at hs ⊢
  exact hs.1.1

theorem EndsBefore.suffixed {r : Nat} {rest : List Token} (h : EndsBefore (.operand r) rest) :
    EndsBefore .suffixed rest := by
  refine h.mono fun s hs => ?_
  simp only [Part.continuedBy, Bool.or_eq_false_iff] at hs ⊢
  exact hs.1

theorem EndsBefore.tighter {q r : Nat} {rest : List Token} (h : EndsBefore (.operand r) rest)
    (hq : q ≤ r) : EndsBefore (.operand q) rest := by
  refine h.mono fun s hs => ?_
  simp only [Part.continuedBy, Bool.or_eq_false_iff] at hs ⊢
  refine ⟨hs.1, ?_⟩
  cases hb : s.binary? with
  | none => rfl
  | some op =>
    have hr : ¬ op.rank ≤ r := by simpa [hb] using hs.2
    have hq : ¬ op.rank ≤ q := by omega
    simpa using hq

theorem EndsBefore.operand {r : Nat} {rest : List Token} (h : EndsBefore .expr rest) :
    EndsBefore (.operand r) rest := by
  refine h.mono fun s hs => ?_
  cases s <;> first | rfl | cases hs

theorem Begins.append {p : Part} {ts : List Token} (h : Begins p ts) (us : List Token) :
    Begins p (ts ++ us) := by
  obtain ⟨t, ts, rfl, hs⟩ := h
  exact ⟨t, ts ++ us, rfl, hs⟩

theorem Begins.mono {p q : Part} {ts : List Token} (h : Begins p ts)
    (hpq : ∀ s, p.begunBy s → q.begunBy s) : Begins q ts := by
  obtain ⟨t, us, rfl, ht⟩ := h
  exact ⟨t, us, rfl, fun s hs => hpq s (ht s hs)⟩

theorem begins_sym {p : Part} {t : Token} {us : List Token} {s : Sym} (ht : t.tok = .sym s)
    (h : p.begunBy s) : Begins p (t :: us) := by
  refine ⟨t, us, rfl, fun s' hs => ?_⟩
  rw [ht] at hs
  cases hs
  exact h

theorem begins_other {p : Part} {t : Token} {us : List Token} (ht : ∀ s, t.tok ≠ .sym s) :
    Begins p (t :: us) :=
  ⟨t, us, rfl, fun s hs => absurd hs (ht s)⟩

/-- Only arguments can be empty. -/
theorem Derives.begins {p : Part} {ts : List Token} {e : Expr} (h : Derives p ts e)
    (hp : p ≠ .arguments) : Begins p ts := by
  induction h with
  | plain h ih => exact ih nofun
  | cond hq hc ht hy hn iht => exact (iht nofun).append _
  | looser h ih => exact ih nofun
  | binary ho hr ht hl hx ihl => exact (ihl nofun).append _
  | comparison ho ht hl hx ihl => exact (ihl nofun).append _
  | prefixed ho ht h =>
    refine begins_sym ht ?_
    cases ho <;> rfl
  | unprefixed h ih =>
    refine (ih nofun).mono fun s hs => ?_
    simp only [Part.begunBy, Bool.or_eq_true] at hs ⊢
    exact .inl hs
  | unsuffixed h ih => exact ih nofun
  | call hl hr h ha ih => exact (ih nofun).append _
  | index hl hr h hi ih => exact (ih nofun).append _
  | int h => exact begins_other (by simp [h])
  | float h => exact begins_other (by simp [h])
  | str h => exact begins_other (by simp [h])
  | true h => exact begins_other (by simp [h])
  | false h => exact begins_other (by simp [h])
  | path h => exact begins_other (by simp [h])
  | parens hl => exact begins_sym hl rfl
  | list hl => exact begins_sym hl rfl
  | none => exact absurd rfl hp
  | some h => exact absurd rfl hp
  | one h ih => exact ih nofun
  | more hc h hm ih => exact (ih nofun).append _

namespace Parser
variable {stop : Nat} {α β : Type}

/-- One reading ends as another does, or at the limit of nesting. -/
def Reaches (x y : Except SyntaxError α) : Prop :=
  x = y ∨ ∃ o, x = .error ⟨o, .tooDeep maxNesting⟩

theorem Reaches.refl (x : Except SyntaxError α) : Reaches x x := .inl rfl

theorem Reaches.trans {x y z : Except SyntaxError α} (h : Reaches x y) (hz : Reaches y z) :
    Reaches x z := by
  obtain rfl | h := h
  · exact hz
  · exact .inr h

theorem Reaches.bind {x : Except SyntaxError α} {a : α} {f : α → Except SyntaxError β}
    (h : Reaches x (.ok a)) : Reaches (x >>= f) (f a) := by
  obtain rfl | ⟨o, rfl⟩ := h
  · exact .inl rfl
  · exact .inr ⟨o, rfl⟩

def below (stop : Nat) : Nat → Option Grammar
  | 0 => none
  | n + 1 => some (grammar stop n)

theorem grammar_eq_level (n : Nat) : grammar stop n = level stop (below stop n) := by
  cases n with
  | zero => rfl
  | succ n => rfl

theorem expr_below (n : Nat) (ts : List Token) :
    expr stop (below stop (n + 1)) ts = conditional stop (below stop n) ts := by
  change (grammar stop n).conditional ts = _
  rw [grammar_eq_level]
  rfl

theorem exists_descend (n : Nat) (read : Grammar → Parse α) (ts : List Token) :
    ∃ m, Reaches (descend stop (below stop n) read ts) (read (level stop (below stop m)) ts) := by
  cases n with
  | zero => exact ⟨0, .inr ⟨_, rfl⟩⟩
  | succ n =>
    refine ⟨n, ?_⟩
    rw [← grammar_eq_level]
    exact .refl _

/-- What reading comes to at every level, it comes to one level deeper. -/
theorem reaches_descend (n : Nat) {read : Grammar → Parse α} {ts : List Token}
    {y : Nat → Except SyntaxError (α × List Token)}
    (h : ∀ m, Reaches (read (level stop (below stop m)) ts) (y m)) :
    ∃ m, Reaches (descend stop (below stop n) read ts) (y m) := by
  obtain ⟨m, hm⟩ := exists_descend n read ts
  exact ⟨m, hm.trans (h m)⟩

theorem starts_cons {s s' : Sym} {t : Token} {ts : List Token} (ht : t.tok = .sym s') :
    starts s (t :: ts) = decide (s' = s) := by
  obtain ⟨tok, start, lexeme⟩ := t
  cases ht
  rfl

theorem expect_cons {s : Sym} {t : Token} {ts : List Token} (ht : t.tok = .sym s) :
    expect stop s (t :: ts) = .ok ts := by
  simp [expect, ht]

theorem binaryOp?_cons {r : Nat} {s : Sym} {op : BinaryOp} {t : Token} {ts : List Token}
    (ho : Operator r s op) (ht : t.tok = .sym s) : binaryOp? r (t :: ts) = some op := by
  obtain ⟨tok, start, lexeme⟩ := t
  cases ht
  obtain ⟨hs, hr⟩ := operator_iff.1 ho
  simp [binaryOp?, hs, hr]

theorem unaryOp?_cons {s : Sym} {op : UnaryOp} {t : Token} {ts : List Token}
    (ho : PrefixOperator s op) (ht : t.tok = .sym s) : unaryOp? (t :: ts) = some op := by
  obtain ⟨tok, start, lexeme⟩ := t
  cases ht
  exact prefixOperator_iff.1 ho

theorem starts_eq_false {p : Part} {s : Sym} {ts : List Token} (h : Begins p ts)
    (hs : p.begunBy s = false) : starts s ts = false := by
  cases hc : starts s ts with
  | false => rfl
  | true =>
    obtain ⟨t, us, rfl, ht⟩ := starts_eq_true hc
    obtain ⟨t', us', he, hb⟩ := h
    cases he
    rw [hb s ht] at hs
    cases hs

theorem unaryOp?_eq_none {ts : List Token} (h : Begins .primary ts) : unaryOp? ts = none := by
  cases ho : unaryOp? ts with
  | none => rfl
  | some op =>
    obtain ⟨t, us, s, rfl, ht, hs⟩ := unaryOp?_eq_some ho
    obtain ⟨t', us', he, hb⟩ := h
    cases he
    have := hb s ht
    cases hs <;> cases this

theorem binaryOp?_eq_none {r : Nat} {rest : List Token} (h : EndsBefore (.operand r) rest) :
    binaryOp? r rest = none := by
  cases ho : binaryOp? r rest with
  | none => rfl
  | some op =>
    obtain ⟨t, us, s, rfl, ht, hs⟩ := binaryOp?_eq_some ho
    obtain ⟨hb, hr⟩ := operator_iff.1 hs
    have hc := h t us s rfl ht
    simp [Part.continuedBy, hb, hr] at hc

theorem starts_question {rest : List Token} (h : EndsBefore .expr rest) :
    starts .question rest = false := by
  cases hc : starts .question rest with
  | false => rfl
  | true =>
    obtain ⟨t, us, rfl, ht⟩ := starts_eq_true hc
    have := h t us .question rfl ht
    cases this

theorem suffix_of_endsBefore {lower : Option Grammar} {e : Expr} {rest : List Token}
    (h : EndsBefore .suffixed rest) : suffix stop lower e rest = .ok (e, rest) := by
  unfold suffix
  split
  next i l ts =>
    have := h _ _ .lparen rfl rfl
    cases this
  next i l ts =>
    have := h _ _ .lbracket rfl rfl
    cases this
  · rfl

theorem chain_of_endsBefore {lower : Option Grammar} {r : Nat} {e : Expr} {rest : List Token}
    (h : EndsBefore (.operand r) rest) : chain stop lower r e rest = .ok (e, rest) := by
  rw [chain, binaryOp?_eq_none h]

theorem dottedName_append {ts rest : List Token} {names : List String} (h : DottedNames ts names)
    (hr : EndsBefore .primary rest) : dottedName (ts ++ rest) = .ok (names, rest) := by
  induction h with
  | nil =>
    rw [List.nil_append]
    unfold dottedName
    split
    next i l name j k ts =>
      have := hr _ _ .dot rfl rfl
      cases this
    next i l ts _ =>
      have := hr _ _ .dot rfl rfl
      cases this
    · rfl
  | @cons d t ts name names hd ht h ih =>
    obtain ⟨_, i, l⟩ := d
    obtain ⟨_, j, k⟩ := t
    cases hd
    cases ht
    rw [List.cons_append, List.cons_append, dottedName, ih]
    rfl

/-- What reading a part comes to when it stands before other tokens, at every level. An operand of
rank `r + 1` may stand before further operators of its rank, which are then still to be read, unless
it is a comparison; the same holds of suffixes. -/
def Accepted (stop : Nat) : Part → List Token → Expr → Prop
  | .expr, ts, e => ∀ n rest, EndsBefore .expr rest →
    Reaches (conditional stop (below stop n) (ts ++ rest)) (.ok (e, rest))
  | .operand 0, ts, e => ∀ n rest, EndsBefore (.operand 0) rest →
    Reaches (unary stop (below stop n) (ts ++ rest)) (.ok (e, rest))
  | .operand (r + 1), ts, e => ∀ n rest, EndsBefore (.operand r) rest →
    (∃ m, Reaches (operand stop (below stop n) (r + 1) (ts ++ rest))
      (chain stop (below stop m) (r + 1) e rest)) ∨
    r + 1 = 3 ∧ Reaches (operand stop (below stop n) (r + 1) (ts ++ rest)) (.ok (e, rest))
  | .suffixed, ts, e => ∀ n rest, EndsBefore .primary rest →
    ∃ m, Reaches (unary stop (below stop n) (ts ++ rest)) (suffix stop (below stop m) e rest)
  | .primary, ts, e => ∀ n rest, EndsBefore .primary rest →
    Reaches (primary stop (expr stop (below stop n)) (ts ++ rest)) (.ok (e, rest))
  | .arguments, ts, e => ∀ es, e = .list es → ∀ n s r rest, s = .rparen ∨ s = .rbracket →
    r.tok = .sym s →
    Reaches (commaList stop (expr stop (below stop n)) s (ts ++ r :: rest)) (.ok (es, rest))
  | .items, ts, e => ∀ es, e = .list es → es.length ≤ ts.length ∧
    ∀ n k s r rest, es.length ≤ k → s = .rparen ∨ s = .rbracket → r.tok = .sym s →
    Reaches (items stop (expr stop (below stop n)) s k (ts ++ r :: rest)) (.ok (es, rest))

namespace Accepted

theorem expr {ts rest : List Token} {e : Expr} (h : Accepted stop .expr ts e) (n : Nat)
    (hr : EndsBefore .expr rest) :
    Reaches (Parser.expr stop (below stop n) (ts ++ rest)) (.ok (e, rest)) := by
  obtain ⟨m, hm⟩ := exists_descend n (·.conditional) (ts ++ rest)
  exact hm.trans (h m rest hr)

theorem operand {r : Nat} {ts rest : List Token} {e : Expr} (h : Accepted stop (.operand r) ts e)
    (n : Nat) (hr : EndsBefore (.operand r) rest) :
    Reaches (Parser.operand stop (below stop n) r (ts ++ rest)) (.ok (e, rest)) := by
  cases r with
  | zero => exact h n rest hr
  | succ r =>
    obtain ⟨m, hm⟩ | ⟨-, hm⟩ := h n rest (hr.tighter (Nat.le_succ r))
    · rw [chain_of_endsBefore hr] at hm
      exact hm
    · exact hm

theorem suffixed {ts rest : List Token} {e : Expr} (h : Accepted stop .suffixed ts e) (n : Nat)
    (hr : EndsBefore .suffixed rest) :
    Reaches (Parser.unary stop (below stop n) (ts ++ rest)) (.ok (e, rest)) := by
  obtain ⟨m, hm⟩ := h n rest hr.primary
  rw [suffix_of_endsBefore hr] at hm
  exact hm

theorem looser {r : Nat} {ts : List Token} {e : Expr} (h : Accepted stop (.operand r) ts e) :
    Accepted stop (.operand (r + 1)) ts e := by
  intro n rest hr
  left
  exact ⟨n, (h.operand n hr).bind⟩

theorem chain_cons {r : Nat} {s : Sym} {op : BinaryOp} {t : Token} {vs rest : List Token}
    {right : Expr} (ho : Operator (r + 1) s op) (ht : t.tok = .sym s)
    (hx : Accepted stop (.operand r) vs right) (hr : EndsBefore (.operand r) rest) (n : Nat)
    (left : Expr) : ∃ m, Reaches (chain stop (below stop n) (r + 1) left (t :: (vs ++ rest)))
      (if r + 1 = 3 then .ok (.binary op left right, rest)
        else chain stop (below stop m) (r + 1) (.binary op left right) rest) := by
  rw [chain, binaryOp?_cons ho ht]
  exact reaches_descend n fun m => Reaches.bind (hx.operand m hr)

theorem not_continued {r : Nat} {s : Sym} {op : BinaryOp} {t : Token} {us : List Token}
    (ho : Operator (r + 1) s op) (ht : t.tok = .sym s) : EndsBefore (.operand r) (t :: us) := by
  refine endsBefore_cons ht ?_
  obtain ⟨hs, hr⟩ := operator_iff.1 ho
  have hn : ¬ op.rank ≤ r := by omega
  cases s <;> simp_all [Part.continuedBy, Sym.binary?]

theorem binary {r : Nat} {s : Sym} {op : BinaryOp} {t : Token} {us vs : List Token}
    {left right : Expr} (ho : Operator (r + 1) s op) (h3 : r + 1 ≠ 3) (ht : t.tok = .sym s)
    (hl : Accepted stop (.operand (r + 1)) us left) (hx : Accepted stop (.operand r) vs right) :
    Accepted stop (.operand (r + 1)) (us ++ t :: vs) (.binary op left right) := by
  intro n rest hr
  left
  obtain ⟨m, hm⟩ | ⟨h, -⟩ := hl n (t :: (vs ++ rest)) (not_continued ho ht)
  · obtain ⟨k, hk⟩ := chain_cons ho ht hx hr m left
    rw [if_neg h3] at hk
    refine ⟨k, ?_⟩
    simpa using hm.trans hk
  · exact absurd h h3

theorem comparison {s : Sym} {op : BinaryOp} {t : Token} {us vs : List Token} {left right : Expr}
    (ho : Operator 3 s op) (ht : t.tok = .sym s) (hl : Accepted stop (.operand 2) us left)
    (hx : Accepted stop (.operand 2) vs right) :
    Accepted stop (.operand 3) (us ++ t :: vs) (.binary op left right) := by
  intro n rest hr
  right
  have hu : Reaches (Parser.operand stop (below stop n) 3 (us ++ t :: (vs ++ rest)))
      (chain stop (below stop n) 3 left (t :: (vs ++ rest))) :=
    Reaches.bind (hl.operand n (not_continued ho ht))
  obtain ⟨m, hm⟩ := chain_cons ho ht hx hr n left
  rw [if_pos rfl] at hm
  refine ⟨rfl, ?_⟩
  simpa using hu.trans hm

theorem cond {q c : Token} {us vs ws : List Token} {test yes no : Expr}
    (hq : q.tok = .sym .question) (hc : c.tok = .sym .colon)
    (ht : Accepted stop (.operand 5) us test) (hy : Accepted stop .expr vs yes)
    (hn : Accepted stop .expr ws no) :
    Accepted stop .expr (us ++ q :: (vs ++ c :: ws)) (.cond test yes no) := by
  intro n rest hr
  have hu := ht.operand n (endsBefore_cons hq rfl : EndsBefore _ (q :: (vs ++ c :: (ws ++ rest))))
  have hv := hy.expr n (endsBefore_cons hc rfl : EndsBefore _ (c :: (ws ++ rest)))
  have hw := hn.expr n hr
  have h : Reaches (conditional stop (below stop n) (us ++ q :: (vs ++ c :: (ws ++ rest))))
      (.ok (.cond test yes no, rest)) := by
    refine (Reaches.bind hu).trans ?_
    simp only [starts_cons hq, decide_true, if_true, List.tail_cons]
    refine (Reaches.bind hv).trans ?_
    simp only [expect_cons hc, ok_bind]
    exact Reaches.bind hw
  simpa using h

theorem plain {ts : List Token} {e : Expr} (h : Accepted stop (.operand 5) ts e) :
    Accepted stop .expr ts e := by
  intro n rest hr
  refine (Reaches.bind (h.operand n hr.operand)).trans ?_
  simp only [starts_question hr]
  exact .refl _

theorem prefixed {s : Sym} {op : UnaryOp} {t : Token} {ts : List Token} {e : Expr}
    (ho : PrefixOperator s op) (ht : t.tok = .sym s) (h : Accepted stop (.operand 0) ts e) :
    Accepted stop (.operand 0) (t :: ts) (.unary op e) := by
  intro n rest hr
  rw [unary, List.cons_append, unaryOp?_cons ho ht]
  obtain ⟨m, hm⟩ := exists_descend n (·.unary) (ts ++ rest)
  exact Reaches.bind (hm.trans (h m rest hr))

theorem unprefixed {ts : List Token} {e : Expr} (h : Accepted stop .suffixed ts e) :
    Accepted stop (.operand 0) ts e := by
  intro n rest hr
  exact h.suffixed n hr.suffixed

theorem unsuffixed {ts : List Token} {e : Expr} (hb : Begins .primary ts)
    (h : Accepted stop .primary ts e) : Accepted stop .suffixed ts e := by
  intro n rest hr
  rw [unary, unaryOp?_eq_none (hb.append rest)]
  exact ⟨n, Reaches.bind (h n rest hr)⟩

theorem call {l r : Token} {us vs : List Token} {callee : Expr} {args : List Expr}
    (hl : l.tok = .sym .lparen) (hr : r.tok = .sym .rparen) (h : Accepted stop .suffixed us callee)
    (ha : Accepted stop .arguments vs (.list args)) :
    Accepted stop .suffixed (us ++ l :: (vs ++ [r])) (.call callee args) := by
  intro n rest he
  obtain ⟨m, hm⟩ := h n (l :: (vs ++ r :: rest)) (endsBefore_cons hl rfl)
  obtain ⟨_, i, k⟩ := l
  cases hl
  obtain ⟨j, hj⟩ : ∃ j, Reaches
      (suffix stop (below stop m) callee (⟨.sym .lparen, i, k⟩ :: (vs ++ r :: rest)))
      (suffix stop (below stop j) (.call callee args) rest) := by
    rw [suffix]
    exact reaches_descend m fun j => Reaches.bind (ha args rfl j .rparen r rest (.inl rfl) hr)
  refine ⟨j, ?_⟩
  simpa using hm.trans hj

theorem index {l r : Token} {us vs : List Token} {target i : Expr} (hl : l.tok = .sym .lbracket)
    (hr : r.tok = .sym .rbracket) (h : Accepted stop .suffixed us target)
    (hi : Accepted stop .expr vs i) :
    Accepted stop .suffixed (us ++ l :: (vs ++ [r])) (.index target i) := by
  intro n rest he
  obtain ⟨m, hm⟩ := h n (l :: (vs ++ r :: rest)) (endsBefore_cons hl rfl)
  obtain ⟨_, b, k⟩ := l
  cases hl
  obtain ⟨j, hj⟩ : ∃ j, Reaches
      (suffix stop (below stop m) target (⟨.sym .lbracket, b, k⟩ :: (vs ++ r :: rest)))
      (suffix stop (below stop j) (.index target i) rest) := by
    rw [suffix]
    refine reaches_descend m fun j => (Reaches.bind (hi.expr j (endsBefore_cons hr rfl))).trans ?_
    simp only [expect_cons hr, ok_bind]
    exact .refl _
  refine ⟨j, ?_⟩
  simpa using hm.trans hj

theorem path {t : Token} {ts : List Token} {name : String} {names : List String}
    (h : t.tok = .ident name) (ht : name ≠ "true") (hf : name ≠ "false")
    (hn : DottedNames ts names) : Accepted stop .primary (t :: ts) (.path (name :: names)) := by
  intro n rest hr
  left
  simp only [List.cons_append, primary, h]
  rw [dottedName_append hn hr]
  rfl

theorem parens {l r : Token} {ts : List Token} {e : Expr} (hl : l.tok = .sym .lparen)
    (hr : r.tok = .sym .rparen) (h : Accepted stop .expr ts e) :
    Accepted stop .primary (l :: (ts ++ [r])) e := by
  intro n rest he
  have hx := h.expr n (endsBefore_cons hr rfl : EndsBefore .expr (r :: rest))
  have hp : Reaches (primary stop (Parser.expr stop (below stop n)) (l :: (ts ++ r :: rest)))
      (.ok (e, rest)) := by
    simp only [primary, hl]
    refine (Reaches.bind hx).trans ?_
    simp only [expect_cons hr, ok_bind]
    exact .refl _
  simpa using hp

theorem list {l r : Token} {ts : List Token} {es : List Expr} (hl : l.tok = .sym .lbracket)
    (hr : r.tok = .sym .rbracket) (h : Accepted stop .arguments ts (.list es)) :
    Accepted stop .primary (l :: (ts ++ [r])) (.list es) := by
  intro n rest he
  have hx := h es rfl n .rbracket r rest (.inr rfl) hr
  have hp : Reaches (primary stop (Parser.expr stop (below stop n)) (l :: (ts ++ r :: rest)))
      (.ok (.list es, rest)) := by
    simp only [primary, hl]
    exact Reaches.bind hx
  simpa using hp

theorem none : Accepted stop .arguments [] (.list []) := by
  rintro es ⟨⟩ n s r rest hs hr
  left
  simp [commaList, starts_cons hr]

theorem some {ts : List Token} {es : List Expr} (hb : Begins .items ts)
    (h : Accepted stop .items ts (.list es)) : Accepted stop .arguments ts (.list es) := by
  rintro es ⟨⟩ n s r rest hs hr
  obtain ⟨hl, hi⟩ := h es rfl
  have hf : starts s (ts ++ r :: rest) = false := by
    refine starts_eq_false (hb.append _) ?_
    obtain rfl | rfl := hs <;> rfl
  have hk : es.length ≤ (ts ++ r :: rest).length + 1 := by
    rw [List.length_append]
    omega
  rw [commaList]
  rw [hf]
  exact hi n _ s r rest hk hs hr

theorem one {ts : List Token} {e : Expr} (hb : Begins .expr ts) (h : Accepted stop .expr ts e) :
    Accepted stop .items ts (.list [e]) := by
  rintro es ⟨⟩
  obtain ⟨t, us, rfl, -⟩ := hb
  refine ⟨by simp, fun n k s r rest hk hs hr => ?_⟩
  obtain _ | k := k
  · cases hk
  have hc : Part.continuedBy .expr s = false := by obtain rfl | rfl := hs <;> rfl
  have hx := h.expr n (endsBefore_cons hr hc : EndsBefore .expr (r :: rest))
  refine (Reaches.bind hx).trans ?_
  simp only [starts_cons hr, decide_true, if_true]
  exact .refl _

theorem more {c : Token} {us vs : List Token} {e : Expr} {es : List Expr}
    (hc : c.tok = .sym .comma) (h : Accepted stop .expr us e)
    (hm : Accepted stop .items vs (.list es)) :
    Accepted stop .items (us ++ c :: vs) (.list (e :: es)) := by
  rintro es ⟨⟩
  obtain ⟨hl, hi⟩ := hm es rfl
  refine ⟨by simp; omega, fun n k s r rest hk hs hr => ?_⟩
  obtain _ | k := k
  · cases hk
  have hx := h.expr n (endsBefore_cons hc rfl : EndsBefore .expr (c :: (vs ++ r :: rest)))
  have hf : decide (Sym.comma = s) = false := by obtain rfl | rfl := hs <;> rfl
  have hp : Reaches (items stop (Parser.expr stop (below stop n)) s (k + 1)
      (us ++ c :: (vs ++ r :: rest))) (.ok (e :: es, rest)) := by
    refine (Reaches.bind hx).trans ?_
    simp only [starts_cons hc, hf, expect_cons hc, ok_bind]
    exact Reaches.bind (hi n k s r rest (Nat.le_of_succ_le_succ hk) hs hr)
  simpa using hp

end Accepted

theorem accepted {p : Part} {ts : List Token} {e : Expr} (h : Derives p ts e) :
    Accepted stop p ts e := by
  induction h with
  | plain h ih => exact ih.plain
  | cond hq hc ht hy hn iht ihy ihn => exact .cond hq hc iht ihy ihn
  | looser h ih => exact ih.looser
  | binary ho hr ht hl hx ihl ihx => exact .binary ho hr ht ihl ihx
  | comparison ho ht hl hx ihl ihx => exact .comparison ho ht ihl ihx
  | prefixed ho ht h ih => exact .prefixed ho ht ih
  | unprefixed h ih => exact ih.unprefixed
  | unsuffixed h ih => exact .unsuffixed (h.begins nofun) ih
  | call hl hr h ha ih iha => exact .call hl hr ih iha
  | index hl hr h hi ih ihi => exact .index hl hr ih ihi
  | int h => exact fun n rest _ => .inl (by simp [primary, h])
  | float h => exact fun n rest _ => .inl (by simp [primary, h])
  | str h => exact fun n rest _ => .inl (by simp [primary, h])
  | true h => exact fun n rest _ => .inl (by simp [primary, h])
  | false h => exact fun n rest _ => .inl (by simp [primary, h])
  | path h ht hf hn => exact .path h ht hf hn
  | parens hl hr h ih => exact .parens hl hr ih
  | list hl hr h ih => exact .list hl hr ih
  | none => exact .none
  | some h ih => exact .some (h.begins nofun) ih
  | one h ih => exact .one (h.begins nofun) ih
  | more hc h hm ih ihm => exact .more hc ih ihm

end Parser

theorem Expr.ofTokens_of_derives {ts : List Token} {e : Expr} (stop : Nat)
    (h : Derives .expr ts e) : Parser.Reaches (Expr.ofTokens stop ts) (.ok e) := by
  obtain ⟨t, us, rfl, -⟩ := h.begins nofun
  have he : EndsBefore .expr [] := nofun
  have ha : Parser.Accepted stop .expr (t :: us) e := Parser.accepted h
  have hx := ha.expr Parser.maxNesting he
  rw [List.append_nil] at hx
  rw [Expr.ofTokens]
  rw [Parser.grammar_eq_level]
  exact Parser.Reaches.bind hx

theorem Expr.ofTokens_eq_ok_iff {stop : Nat} {ts : List Token} {e : Expr} :
    Expr.ofTokens stop ts = .ok e ↔
      (Parser.grammar stop Parser.maxNesting).expr ts = .ok (e, []) := by
  constructor
  · exact Expr.expr_of_ofTokens
  · intro hx
    obtain ⟨us, hu, hd⟩ := (Parser.sound_grammar Parser.maxNesting).expr _ _ _ hx
    obtain ⟨t, us, rfl, -⟩ := hd.begins nofun
    rw [hu, List.append_nil] at hx ⊢
    simp [Expr.ofTokens, hx]

/-- All that is read is derived, and all that is derived is read as the tree it derives unless it
is nested too deeply. -/
theorem Expr.ofTokens_grammar (stop : Nat) (ts : List Token) (e : Expr) :
    (Expr.ofTokens stop ts = .ok e → Derives .expr ts e) ∧
    (Derives .expr ts e → Expr.ofTokens stop ts = .ok e ∨
      ∃ o, Expr.ofTokens stop ts = .error ⟨o, .tooDeep 128⟩) :=
  ⟨Expr.derives_of_ofTokens, Expr.ofTokens_of_derives stop⟩

/-- `a - b - c` is derived as `(a - b) - c`. -/
theorem Expr.ofTokens_grammar_left :
    let name (s : String) : Expr := .path [s]
    let ts : List Token := [⟨.ident "a", 0, ['a']⟩, ⟨.sym .minus, 2, ['-']⟩, ⟨.ident "b", 4, ['b']⟩,
      ⟨.sym .minus, 6, ['-']⟩, ⟨.ident "c", 8, ['c']⟩]
    Derives .expr ts (.binary .sub (.binary .sub (name "a") (name "b")) (name "c")) := by
  intro name ts
  exact (Expr.ofTokens_grammar 9 ts _).1 (by rfl)

end Tether
