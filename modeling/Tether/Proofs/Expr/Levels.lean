import Tether.Proofs.Expr.Completeness

/-! More levels of nesting change nothing that is read with fewer: `ReadsWithin.mono`. -/
namespace Tether

namespace Parser
variable {stop : Nat} {α β : Type}

def Below (x y : Except SyntaxError α) : Prop := ∀ a, x = .ok a → y = .ok a

theorem Below.refl (x : Except SyntaxError α) : Below x x := fun _ h => h

theorem Below.trans {x y z : Except SyntaxError α} (h : Below x y) (hz : Below y z) : Below x z :=
  fun a ha => hz a (h a ha)

theorem Below.bind {x y : Except SyntaxError α} {f g : α → Except SyntaxError β} (h : Below x y)
    (hf : ∀ a, Below (f a) (g a)) : Below (x >>= f) (y >>= g) := by
  intro b hb
  obtain ⟨a, ha, hb⟩ := bind_eq_ok.1 hb
  exact bind_eq_ok.2 ⟨a, h a ha, hf a b hb⟩

structure Weaker (g g' : Grammar) : Prop where
  expr : ∀ ts, Below (g.expr ts) (g'.expr ts)
  conditional : ∀ ts, Below (g.conditional ts) (g'.conditional ts)
  operand : ∀ r ts, Below (g.operand r ts) (g'.operand r ts)
  chain : ∀ r e ts, Below (g.chain r e ts) (g'.chain r e ts)
  unary : ∀ ts, Below (g.unary ts) (g'.unary ts)
  suffix : ∀ e ts, Below (g.suffix e ts) (g'.suffix e ts)

theorem items_mono {item item' : Parse Expr} (h : ∀ ts, Below (item ts) (item' ts)) (close : Sym)
    (n : Nat) (ts : List Token) :
    Below (items stop item close n ts) (items stop item' close n ts) := by
  induction n generalizing ts with
  | zero => exact .refl _
  | succ n ih =>
    refine Below.bind (h ts) fun x => ?_
    dsimp only
    split
    · exact .refl _
    · exact Below.bind (.refl _) fun ts => Below.bind (ih ts) fun xs => .refl _

theorem commaList_mono {item item' : Parse Expr} (h : ∀ ts, Below (item ts) (item' ts))
    (close : Sym) (ts : List Token) :
    Below (commaList stop item close ts) (commaList stop item' close ts) := by
  unfold commaList
  split
  · exact .refl _
  · exact items_mono h close _ ts

theorem primary_mono {expr expr' : Parse Expr} (h : ∀ ts, Below (expr ts) (expr' ts))
    (ts : List Token) : Below (primary stop expr ts) (primary stop expr' ts) := by
  cases ts with
  | nil => exact .refl _
  | cons t ts =>
    unfold primary
    dsimp only
    split
    case h_7 => exact Below.bind (h ts) fun x => .refl _
    case h_8 => exact Below.bind (commaList_mono h .rbracket ts) fun x => .refl _
    all_goals exact .refl _

section Level
variable {lower lower' : Option Grammar}
  (hl : ∀ g, lower = some g → ∃ g', lower' = some g' ∧ Weaker g g')
include hl

theorem descend_mono {read read' : Grammar → Parse α} {ts : List Token}
    (h : ∀ g g', Weaker g g' → Below (read g ts) (read' g' ts)) :
    Below (descend stop lower read ts) (descend stop lower' read' ts) := by
  cases lower with
  | none => exact nofun
  | some g =>
    obtain ⟨g', rfl, hg⟩ := hl g rfl
    exact h g g' hg

theorem expr_mono (ts : List Token) : Below (expr stop lower ts) (expr stop lower' ts) :=
  descend_mono hl fun _ _ hg => hg.conditional ts

theorem suffix_mono (e : Expr) (ts : List Token) :
    Below (suffix stop lower e ts) (suffix stop lower' e ts) := by
  unfold suffix
  split
  · refine descend_mono hl fun g g' hg => ?_
    exact Below.bind (commaList_mono hg.expr .rparen _) fun x => hg.suffix _ _
  · refine descend_mono hl fun g g' hg => ?_
    refine Below.bind (hg.expr _) fun x => ?_
    exact Below.bind (.refl _) fun ts => hg.suffix _ ts
  · exact .refl _

theorem unary_mono (ts : List Token) : Below (unary stop lower ts) (unary stop lower' ts) := by
  unfold unary
  split
  · refine Below.bind (descend_mono hl fun g g' hg => hg.unary _) fun x => ?_
    exact .refl _
  · exact Below.bind (primary_mono (expr_mono hl) ts) fun x => suffix_mono hl _ _

theorem chain_mono (r : Nat) (e : Expr) (ts : List Token) :
    Below (chain stop lower r e ts) (chain stop lower' r e ts) := by
  unfold chain
  split
  · exact .refl _
  · refine descend_mono hl fun g g' hg => ?_
    refine Below.bind (hg.operand (r - 1) _) fun x => ?_
    dsimp only
    split
    · exact .refl _
    · exact hg.chain r _ _

theorem operand_mono (r : Nat) (ts : List Token) :
    Below (operand stop lower r ts) (operand stop lower' r ts) := by
  induction r generalizing ts with
  | zero => exact unary_mono hl ts
  | succ r ih => exact Below.bind (ih ts) fun x => chain_mono hl (r + 1) _ _

theorem conditional_mono (ts : List Token) :
    Below (conditional stop lower ts) (conditional stop lower' ts) := by
  refine Below.bind (operand_mono hl 5 ts) fun test => ?_
  dsimp only
  split
  · refine Below.bind (expr_mono hl _) fun yes => ?_
    refine Below.bind (.refl _) fun ts => ?_
    exact Below.bind (expr_mono hl ts) fun no => .refl _
  · exact .refl _

theorem weaker_level : Weaker (level stop lower) (level stop lower') :=
  ⟨expr_mono hl, conditional_mono hl, operand_mono hl, chain_mono hl, unary_mono hl, suffix_mono hl⟩

end Level

theorem weaker_grammar (n : Nat) : Weaker (grammar stop n) (grammar stop (n + 1)) := by
  induction n with
  | zero => exact weaker_level nofun
  | succ n ih => exact weaker_level (by rintro g ⟨⟩; exact ⟨_, rfl, ih⟩)

theorem grammar_expr_mono {m n : Nat} (h : m ≤ n) (ts : List Token) :
    Below ((grammar stop m).expr ts) ((grammar stop n).expr ts) := by
  induction h with
  | refl => exact .refl _
  | step _ ih => exact ih.trans ((weaker_grammar _).expr ts)

end Parser

namespace Expr
variable {m n : Nat} {cs : List Char} {e : Expr}

/-- The source is read as a tree with no more than `n` levels of nesting. -/
def ReadsWithin (n : Nat) (cs : List Char) (e : Expr) : Prop :=
  ∃ ts, Token.scan cs = .ok ts ∧ (Parser.grammar (Text.bytes cs) n).expr ts = .ok (e, [])

theorem ReadsWithin.mono (h : ReadsWithin m cs e) (hn : m ≤ n) : ReadsWithin n cs e := by
  obtain ⟨ts, hs, hx⟩ := h
  exact ⟨ts, hs, Parser.grammar_expr_mono hn ts _ hx⟩

theorem parse_eq_ok_iff : Expr.parse cs = .ok e ↔ ReadsWithin Parser.maxNesting cs e := by
  rw [Expr.parse, bind_eq_ok]
  exact exists_congr fun ts => and_congr_right fun _ => Expr.ofTokens_eq_ok_iff

end Expr

end Tether
