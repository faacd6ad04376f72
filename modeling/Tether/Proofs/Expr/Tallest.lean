import Tether.Proofs.Expr.Dotted
import Tether.Proofs.Expr.Height
import Tether.Proofs.Expr.Levels
import Mathlib

/-! A source for the highest tree, and with it the exact limit of height, for the sources that take
up some of the levels (`Expr.height_le_limit_iff`) and for all of them (`Expr.height_of_parse`). At
every level the source is a list of one item, the source one level down, with as many calls after it
as there are levels, then chains of all ranks as long as they can be and the branches of a
conditional. -/
namespace Tether

def spell (toks : List Tok) : List Char := toks.flatMap fun t => t.text.toList ++ [' ']

def Tok.Legible (t : Tok) : Prop :=
  ∃ c ds, t.text.toList = c :: ds ∧ Unicode.isWhite c = false ∧
    ∀ start cs, Token.first start c (ds ++ ' ' :: cs) = .ok (t, c :: ds, ' ' :: cs)

theorem legible_sym (s : Sym) : Tok.Legible (.sym s) := by
  cases s <;> exact ⟨_, _, rfl, rfl, fun _ _ => rfl⟩

theorem legible_name : Tok.Legible (.ident "a") := ⟨'a', [], rfl, rfl, fun _ _ => rfl⟩

theorem Token.scans_spell {toks : List Tok} (h : ∀ t ∈ toks, t.Legible) :
    Scans (spell toks) toks := by
  induction toks with
  | nil => exact .nil
  | cons t toks ih =>
    obtain ⟨c, ds, ht, hw, hf⟩ := h t (by simp)
    have hs : spell (t :: toks) = c :: (ds ++ ' ' :: spell toks) := by
      simp [spell, ht]
    rw [hs]
    exact .cons hw (fun start => hf start _) (.white (by rfl) (ih fun t ht => h t (by simp [ht])))

namespace Parser
variable {stop : Nat}

def leaf : Expr := .path ["a"]

def called : Nat → Expr → Expr
  | 0, e => e
  | n + 1, e => called n (.call e [])

def chained (op : BinaryOp) : Nat → Expr → Expr
  | 0, e => e
  | n + 1, e => chained op n (.binary op e leaf)

def callToks : Nat → List Tok
  | 0 => []
  | n + 1 => .sym .lparen :: .sym .rparen :: callToks n

def chainToks (s : Sym) : Nat → List Tok
  | 0 => []
  | n + 1 => .sym s :: .ident "a" :: chainToks s n

def tallestTest (n : Nat) (e : Expr) : Expr :=
  chained .or n (chained .and n (chained .lt 1 (chained .add n (chained .mul n
    (called n (.list [e]))))))

def tallestTestToks (n : Nat) (toks : List Tok) : List Tok :=
  .sym .lbracket :: (toks ++ [.sym .rbracket]) ++ callToks n ++ chainToks .star n ++
    chainToks .plus n ++ chainToks .lt 1 ++ chainToks .and n ++ chainToks .or n

def tallestExpr : Nat → Expr
  | 0 => leaf
  | n + 1 => .cond (tallestTest (n + 1) (tallestExpr n)) leaf leaf

def tallestToks : Nat → List Tok
  | 0 => [.ident "a"]
  | n + 1 => tallestTestToks (n + 1) (tallestToks n) ++
    [.sym .question, .ident "a", .sym .colon, .ident "a"]

theorem height_called (n : Nat) (e : Expr) : (called n e).height = n + e.height := by
  induction n generalizing e with
  | zero => simp [called]
  | succ n ih =>
    rw [called, ih, Expr.height, Expr.heights]
    omega

theorem height_chained (op : BinaryOp) (n : Nat) (e : Expr) :
    (chained op n e).height = n + e.height := by
  induction n generalizing e with
  | zero => simp [chained]
  | succ n ih =>
    have hp := e.height_pos
    rw [chained, ih, Expr.height, leaf, Expr.height]
    omega

theorem height_tallestExpr (n : Nat) : (tallestExpr n).height = tallest (n + 1) := by
  induction n with
  | zero => rfl
  | succ n ih =>
    simp only [tallestExpr, tallestTest, Expr.height, Expr.heights, height_chained, height_called,
      ih, leaf]
    rw [tallest.eq_2 (n + 1)]
    omega

/-- Tokens of a kind are read to their end as an operand, with `n` further levels. -/
def ReadsTo (stop n r : Nat) (toks : List Tok) (e : Expr) : Prop :=
  ∀ ts rest, ts.map Token.tok = toks → EndsBefore (.operand r) rest →
    operand stop (below stop n) r (ts ++ rest) = .ok (e, rest)

theorem operand_leaf {lower : Option Grammar} {t : Token} {rest : List Token}
    (ht : t.tok = .ident "a") (r : Nat) (hr : EndsBefore (.operand r) rest) :
    operand stop lower r (t :: rest) = .ok (leaf, rest) := by
  have h : operand stop lower r (t :: ([] ++ rest)) = .ok (leaf, rest) :=
    operand_path ht (by decide) (by decide) .nil r hr
  rwa [List.nil_append] at h

theorem conditional_leaf {lower : Option Grammar} {t : Token} {rest : List Token}
    (ht : t.tok = .ident "a") (hr : EndsBefore .expr rest) :
    conditional stop lower (t :: rest) = .ok (leaf, rest) := by
  have h : conditional stop lower (t :: ([] ++ rest)) = .ok (leaf, rest) :=
    conditional_path ht (by decide) (by decide) .nil hr
  rwa [List.nil_append] at h

theorem suffix_callToks {n : Nat} {us rest : List Token} (hu : us.map Token.tok = callToks n)
    (hr : EndsBefore .suffixed rest) (e : Expr) :
    suffix stop (below stop n) e (us ++ rest) = .ok (called n e, rest) := by
  induction n generalizing us e with
  | zero =>
    obtain rfl := List.map_eq_nil_iff.1 hu
    exact suffix_of_endsBefore hr
  | succ n ih =>
    obtain ⟨l, us, rfl, hl, hrs⟩ := List.map_eq_cons_iff.1 hu
    obtain ⟨r, us, rfl, hrt, hus⟩ := List.map_eq_cons_iff.1 hrs
    obtain ⟨_, i, k⟩ := l
    cases hl
    have hc : commaList stop (grammar stop n).expr .rparen (r :: (us ++ rest)) =
        .ok ([], us ++ rest) := by
      simp [commaList, starts_cons hrt]
    have hs : (grammar stop n).suffix (.call e []) (us ++ rest) = .ok (called (n + 1) e, rest) := by
      rw [grammar_eq_level]
      exact ih hus (.call e [])
    simp [suffix, below, descend, hc, hs]

theorem endsBefore_chainToks {r n : Nat} {s : Sym} {op : BinaryOp} {us rest : List Token}
    (ho : Operator (r + 1) s op) (hu : us.map Token.tok = chainToks s n)
    (hr : EndsBefore (.operand r) rest) : EndsBefore (.operand r) (us ++ rest) := by
  cases n with
  | zero =>
    obtain rfl := List.map_eq_nil_iff.1 hu
    exact hr
  | succ n =>
    obtain ⟨t, us, rfl, ht, -⟩ := List.map_eq_cons_iff.1 hu
    exact Accepted.not_continued ho ht

theorem chain_chainToks {r n : Nat} {s : Sym} {op : BinaryOp} {us rest : List Token}
    (ho : Operator (r + 1) s op) (h3 : r + 1 ≠ 3) (hu : us.map Token.tok = chainToks s n)
    (hr : EndsBefore (.operand (r + 1)) rest) (e : Expr) :
    chain stop (below stop n) (r + 1) e (us ++ rest) = .ok (chained op n e, rest) := by
  induction n generalizing us e with
  | zero =>
    obtain rfl := List.map_eq_nil_iff.1 hu
    exact chain_of_endsBefore hr
  | succ n ih =>
    obtain ⟨t, us, rfl, ht, hxs⟩ := List.map_eq_cons_iff.1 hu
    obtain ⟨x, us, rfl, hxt, hus⟩ := List.map_eq_cons_iff.1 hxs
    have he := endsBefore_chainToks ho hus (hr.tighter (Nat.le_succ r))
    have hx : (grammar stop n).operand r (x :: (us ++ rest)) = .ok (leaf, us ++ rest) := by
      rw [grammar_eq_level]
      exact operand_leaf hxt r he
    have hc : (grammar stop n).chain (r + 1) (.binary op e leaf) (us ++ rest) =
        .ok (chained op (n + 1) e, rest) := by
      rw [grammar_eq_level]
      exact ih hus (.binary op e leaf)
    have h2 : r ≠ 2 := by omega
    simp [chain, binaryOp?_cons ho ht, below, descend, hx, h2, hc]

theorem ReadsTo.chained {n r : Nat} {s : Sym} {op : BinaryOp} {toks : List Tok} {e : Expr}
    (h : ReadsTo stop n r toks e) (ho : Operator (r + 1) s op) (h3 : r + 1 ≠ 3) :
    ReadsTo stop n (r + 1) (toks ++ chainToks s n) (chained op n e) := by
  intro ts rest ht hr
  obtain ⟨us, vs, rfl, hu, hv⟩ := List.map_eq_append_iff.1 ht
  have he := endsBefore_chainToks ho hv (hr.tighter (Nat.le_succ r))
  rw [List.append_assoc, operand_succ (h us (vs ++ rest) hu he)]
  exact chain_chainToks ho h3 hv hr e

theorem ReadsTo.compared {n : Nat} {toks : List Tok} {e : Expr}
    (h : ReadsTo stop (n + 1) 2 toks e) :
    ReadsTo stop (n + 1) 3 (toks ++ chainToks .lt 1) (Parser.chained .lt 1 e) := by
  intro ts rest ht hr
  obtain ⟨us, vs, rfl, hu, hv⟩ := List.map_eq_append_iff.1 ht
  have he := endsBefore_chainToks .lt hv (hr.tighter (Nat.le_succ 2))
  rw [List.append_assoc, operand_succ (h us (vs ++ rest) hu he)]
  obtain ⟨t, vs, rfl, hlt, hxs⟩ := List.map_eq_cons_iff.1 hv
  obtain ⟨x, vs, rfl, hxt, hvs⟩ := List.map_eq_cons_iff.1 hxs
  obtain rfl := List.map_eq_nil_iff.1 hvs
  have hx : (grammar stop n).operand 2 (x :: rest) = .ok (leaf, rest) := by
    rw [grammar_eq_level]
    exact operand_leaf hxt 2 (hr.tighter (Nat.le_succ 2))
  simp [chain, binaryOp?_cons .lt hlt, below, descend, hx, Parser.chained]

theorem begins_tallestToks {n : Nat} {ts : List Token} (h : ts.map Token.tok = tallestToks n) :
    Begins .expr ts := by
  cases n with
  | zero =>
    obtain ⟨t, us, rfl, ht, -⟩ := List.map_eq_cons_iff.1 h
    exact begins_other (by simp [ht])
  | succ n =>
    obtain ⟨t, us, rfl, ht, -⟩ := List.map_eq_cons_iff.1 h
    exact begins_sym ht rfl

/-- What is read one level down is read as the only item of a list, with calls after it. -/
theorem readsTo_called {n : Nat} {toks : List Tok} {e : Expr}
    (hb : ∀ ts, ts.map Token.tok = toks → Begins .expr ts)
    (h : ∀ ts rest, ts.map Token.tok = toks → EndsBefore .expr rest →
      conditional stop (below stop n) (ts ++ rest) = .ok (e, rest)) :
    ReadsTo stop (n + 1) 0 (.sym .lbracket :: (toks ++ [.sym .rbracket]) ++ callToks (n + 1))
      (called (n + 1) (.list [e])) := by
  intro ts rest ht hr
  obtain ⟨us, vs, rfl, hu, hv⟩ := List.map_eq_append_iff.1 ht
  obtain ⟨l, us, rfl, hl, hlu⟩ := List.map_eq_cons_iff.1 hu
  obtain ⟨us, rs, rfl, hus, hrs⟩ := List.map_eq_append_iff.1 hlu
  obtain ⟨r, rs, rfl, hrt, hn⟩ := List.map_eq_cons_iff.1 hrs
  obtain rfl := List.map_eq_nil_iff.1 hn
  obtain ⟨_, i, k⟩ := l
  cases hl
  have hx : expr stop (below stop (n + 1)) (us ++ r :: (vs ++ rest)) = .ok (e, r :: (vs ++ rest)) := by
    rw [expr_below]
    exact h us _ hus (endsBefore_cons hrt rfl)
  have hf : starts .rbracket (us ++ r :: (vs ++ rest)) = false :=
    starts_eq_false ((hb us hus).append _) rfl
  have hp : commaList stop (expr stop (below stop (n + 1))) .rbracket (us ++ r :: (vs ++ rest)) =
      .ok ([e], vs ++ rest) := by
    simp [commaList, hf, items, hx, starts_cons hrt]
  have hs : suffix stop (below stop (n + 1)) (.list [e]) (vs ++ rest) =
      .ok (called (n + 1) (.list [e]), rest) := suffix_callToks hv hr.suffixed (.list [e])
  simp [operand, unary, unaryOp?, Sym.unary?, primary, hp, hs]

theorem readsTo_tallestTest {n : Nat} {toks : List Tok} {e : Expr}
    (hb : ∀ ts, ts.map Token.tok = toks → Begins .expr ts)
    (h : ∀ ts rest, ts.map Token.tok = toks → EndsBefore .expr rest →
      conditional stop (below stop n) (ts ++ rest) = .ok (e, rest)) :
    ReadsTo stop (n + 1) 5 (tallestTestToks (n + 1) toks) (tallestTest (n + 1) e) := by
  have h₁ := (readsTo_called hb h).chained .mul (by decide)
  have h₂ := h₁.chained .add (by decide)
  have h₃ := h₂.compared.chained .and (by decide)
  exact h₃.chained .or (by decide)

theorem conditional_tallestToks (n : Nat) (ts rest : List Token)
    (ht : ts.map Token.tok = tallestToks n) (hr : EndsBefore .expr rest) :
    conditional stop (below stop n) (ts ++ rest) = .ok (tallestExpr n, rest) := by
  induction n generalizing ts rest with
  | zero =>
    obtain ⟨t, us, rfl, hl, hn⟩ := List.map_eq_cons_iff.1 ht
    obtain rfl := List.map_eq_nil_iff.1 hn
    exact conditional_leaf hl hr
  | succ n ih =>
    obtain ⟨us, vs, rfl, hu, hv⟩ := List.map_eq_append_iff.1 ht
    obtain ⟨q, vs, rfl, hq, hv₁⟩ := List.map_eq_cons_iff.1 hv
    obtain ⟨y, vs, rfl, hyt, hv₂⟩ := List.map_eq_cons_iff.1 hv₁
    obtain ⟨c, vs, rfl, hc, hv₃⟩ := List.map_eq_cons_iff.1 hv₂
    obtain ⟨x, vs, rfl, hxt, hn⟩ := List.map_eq_cons_iff.1 hv₃
    obtain rfl := List.map_eq_nil_iff.1 hn
    have hu := readsTo_tallestTest (fun ts => begins_tallestToks) ih us (q :: y :: c :: x :: rest) hu
      (endsBefore_cons hq rfl)
    have hy : expr stop (below stop (n + 1)) (y :: c :: x :: rest) = .ok (leaf, c :: x :: rest) := by
      rw [expr_below]
      exact conditional_leaf hyt (endsBefore_cons hc rfl)
    have hx : expr stop (below stop (n + 1)) (x :: rest) = .ok (leaf, rest) := by
      rw [expr_below]
      exact conditional_leaf hxt hr
    rw [List.append_assoc, conditional]
    simp [hu, starts_cons hq, hy, expect_cons hc, hx, tallestExpr]

theorem legible_callToks {n : Nat} {t : Tok} (h : t ∈ callToks n) : t.Legible := by
  induction n with
  | zero => cases h
  | succ n ih =>
    rw [callToks, List.mem_cons, List.mem_cons] at h
    obtain rfl | rfl | h := h
    · exact legible_sym .lparen
    · exact legible_sym .rparen
    · exact ih h

theorem legible_chainToks {s : Sym} {n : Nat} {t : Tok} (h : t ∈ chainToks s n) : t.Legible := by
  induction n with
  | zero => cases h
  | succ n ih =>
    rw [chainToks, List.mem_cons, List.mem_cons] at h
    obtain rfl | rfl | h := h
    · exact legible_sym s
    · exact legible_name
    · exact ih h

theorem legible_tallestToks {n : Nat} {t : Tok} (h : t ∈ tallestToks n) : t.Legible := by
  induction n with
  | zero =>
    rw [tallestToks, List.mem_singleton] at h
    exact h ▸ legible_name
  | succ n ih =>
    simp only [tallestToks, tallestTestToks, List.mem_append, List.mem_cons, List.not_mem_nil,
      or_false] at h
    obtain ((((((((rfl | h | rfl) | h) | h) | h) | h) | h) | h) | rfl | rfl | rfl | rfl) := h
    · exact legible_sym .lbracket
    · exact ih h
    · exact legible_sym .rbracket
    · exact legible_callToks h
    all_goals first | exact legible_chainToks h | exact legible_sym _ | exact legible_name

end Parser

namespace Expr
variable {n : Nat} {cs : List Char} {e : Expr}

theorem ReadsWithin.height_le (h : ReadsWithin n cs e) : e.height ≤ Parser.tallest n := by
  obtain ⟨ts, -, hx⟩ := h
  exact (Parser.low_grammar n).expr ts e [] hx

theorem readsWithin_tallest (n : Nat) :
    ReadsWithin (n + 1) (spell (Parser.tallestToks n)) (Parser.tallestExpr n) := by
  have hl : ∀ t ∈ Parser.tallestToks n, t.Legible := fun _ => Parser.legible_tallestToks
  obtain ⟨ts, hs, hm⟩ := Token.scans_spell hl 0
  refine ⟨ts, hs, ?_⟩
  generalize Text.bytes (spell (Parser.tallestToks n)) = stop
  have hx := @Parser.conditional_tallestToks stop n ts [] hm nofun
  rw [List.append_nil] at hx
  rw [Parser.grammar_eq_level]
  exact (Parser.expr_below n ts).trans hx

/-- No tree that is read is higher than 41022, and one is as high as that. -/
theorem height_of_parse :
    (∀ cs e, Expr.parse cs = .ok e → e.height ≤ 41022) ∧
    ∃ cs e, Expr.parse cs = .ok e ∧ e.height = 41022 := by
  have ht : Parser.tallest (127 + 1) = 41022 := by
    have h := Parser.tallest_succ 127
    omega
  constructor
  · intro cs e h
    exact ht ▸ (parse_eq_ok_iff.1 h).height_le
  · refine ⟨_, _, parse_eq_ok_iff.2 (readsWithin_tallest 127), ?_⟩
    rw [Parser.height_tallestExpr]
    exact ht

/-- The trees of all sources that take up no more than `n` of the levels are within the limit exactly
when `n` is at most 7. -/
theorem height_le_limit_iff (n : Nat) :
    (∀ cs e, Expr.parse cs = .ok e → ReadsWithin n cs e → e.height ≤ Parser.maxNesting) ↔ n ≤ 7 := by
  constructor
  · intro h
    refine Nat.le_of_not_lt fun hn => ?_
    have hr := readsWithin_tallest 7
    have hp := parse_eq_ok_iff.2 (hr.mono (by decide))
    have hb := h _ _ hp (hr.mono hn)
    have ht := Parser.tallest_succ 7
    rw [Parser.height_tallestExpr, Parser.maxNesting] at hb
    omega
  · intro hn cs e _ h
    have hb : e.height ≤ Parser.tallest (6 + 1) := (h.mono hn).height_le
    have ht := Parser.tallest_succ 6
    rw [Parser.maxNesting]
    omega

set_option maxRecDepth 20000 in
/-- The operator after 127 prefix operators goes on top of them and counts as the first level. -/
theorem height_past_limit : ∃ e,
    Expr.parse (List.replicate 127 '-' ++ ['1', '+', '1']) = .ok e ∧ e.height = 129 :=
  map_eq_ok.1 (by cbv)

end Expr

end Tether
