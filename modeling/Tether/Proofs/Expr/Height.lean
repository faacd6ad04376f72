import Tether.Proofs.Expr.Completeness

/-! How high the trees are that a number of levels lets through: `Parser.low_grammar`. A chain
of operators uses up levels from left to right while its tree grows from the first operand upwards,
and the levels are free again once the chain has been read. So the chains of all five ranks and the
suffixes add to one tree, at every level. -/
namespace Tether

mutual

def Expr.height : Expr → Nat
  | .int _ | .float _ | .str _ | .bool _ | .path _ => 1
  | .list items => 1 + Expr.heights items
  | .call callee args => 1 + max callee.height (Expr.heights args)
  | .index target i => 1 + max target.height i.height
  | .unary _ operand => 1 + operand.height
  | .binary _ left right => 1 + max left.height right.height
  | .cond test yes no => 1 + max test.height (max yes.height no.height)

def Expr.heights : List Expr → Nat
  | [] => 0
  | e :: es => max e.height (Expr.heights es)

end

theorem Expr.height_pos (e : Expr) : 0 < e.height := by
  cases e <;> simp only [Expr.height] <;> omega

namespace Parser
variable {stop : Nat}

/-- The height an expression can reach that has `n` levels of nesting for itself. -/
def tallest : Nat → Nat
  | 0 => 0
  | n + 1 => tallest n + 1 + 5 * n + 2 * min n 1

def chainLength (rank n : Nat) : Nat := if rank = 3 then min n 1 else n

/-- The height an operand of a rank can reach inside of which `n` levels are left. -/
def tallestOperand (n : Nat) : Nat → Nat
  | 0 => tallest n + 1 + n
  | rank + 1 => tallestOperand n rank + chainLength (rank + 1) n

theorem tallest_mono (n : Nat) : tallest n ≤ tallest (n + 1) := by
  rw [tallest]
  omega

theorem tallest_succ (n : Nat) : 2 * tallest (n + 1) = 5 * n * n + 11 * n + 2 := by
  induction n with
  | zero => rfl
  | succ n ih =>
    have hm : min (n + 1) 1 = 1 := by omega
    rw [tallest, hm]
    grind

theorem chainLength_mono (rank n : Nat) : chainLength rank n ≤ chainLength rank (n + 1) := by
  unfold chainLength
  split <;> omega

theorem tallestOperand_mono (n rank : Nat) : tallestOperand n rank ≤ tallestOperand (n + 1) rank := by
  induction rank with
  | zero =>
    have := tallest_mono n
    simp only [tallestOperand]
    omega
  | succ rank ih =>
    have := chainLength_mono (rank + 1) n
    simp only [tallestOperand]
    omega

theorem tallestOperand_five (n : Nat) : tallestOperand n 5 = tallest n + 1 + 5 * n + min n 1 := by
  simp only [tallestOperand, chainLength, Nat.reduceAdd, Nat.reduceEqDiff, if_false, if_true]
  omega

def Within (read : Parse Expr) (h : Nat) : Prop :=
  ∀ ts e rest, read ts = .ok (e, rest) → e.height ≤ h

/-- What is read on top of a tree, which itself may be replaced by one of height `h`, adds no more
than `k` nodes to it. -/
def Adds (read : Expr → Parse Expr) (h k : Nat) : Prop :=
  ∀ left ts e rest, read left ts = .ok (e, rest) → e.height ≤ max left.height h + k

structure Low (g : Grammar) (n : Nat) : Prop where
  expr : Within g.expr (tallest n)
  conditional : Within g.conditional (tallest (n + 1))
  operand (r : Nat) : Within (g.operand r) (tallestOperand n r)
  chain (r : Nat) : Adds (g.chain (r + 1)) (tallestOperand n r) (chainLength (r + 1) n)
  unary : Within g.unary (tallestOperand n 0)
  suffix : Adds g.suffix (tallest n + 1) n

theorem heights_of_items {item : Parse Expr} {h : Nat} (hi : Within item h) {close : Sym} {n : Nat}
    {ts rest : List Token} {es : List Expr} (hx : items stop item close n ts = .ok (es, rest)) :
    Expr.heights es ≤ h := by
  induction n generalizing ts es with
  | zero => cases hx
  | succ n ih =>
    obtain ⟨⟨e, ts'⟩, he, hb⟩ := bind_eq_ok.1 hx
    have hh := hi _ _ _ he
    dsimp only at hb
    split at hb
    next =>
      cases hb
      simpa [Expr.heights] using hh
    next =>
      obtain ⟨ts'', -, hm⟩ := bind_eq_ok.1 hb
      obtain ⟨⟨es', ts'⟩, hes, hp⟩ := bind_eq_ok.1 hm
      cases hp
      have hs : Expr.heights es' ≤ h := ih hes
      change Expr.heights (e :: es') ≤ h
      rw [Expr.heights]
      omega

theorem heights_of_commaList {item : Parse Expr} {h : Nat} (hi : Within item h) {close : Sym}
    {ts rest : List Token} {es : List Expr} (hx : commaList stop item close ts = .ok (es, rest)) :
    Expr.heights es ≤ h := by
  rw [commaList] at hx
  split at hx
  · cases hx
    exact Nat.zero_le h
  · exact heights_of_items hi hx

theorem Within.primary {expr : Parse Expr} {h : Nat} (he : Within expr h) :
    Within (primary stop expr) (h + 1) := by
  intro ts e rest hx
  unfold Parser.primary at hx
  split at hx
  · cases hx
  next t ts =>
    split at hx
    next => cases hx; simp [Expr.height]
    next => cases hx; simp [Expr.height]
    next => cases hx; simp [Expr.height]
    next => cases hx; simp [Expr.height]
    next => cases hx; simp [Expr.height]
    next =>
      obtain ⟨⟨names, ts'⟩, -, hx⟩ := bind_eq_ok.1 hx
      cases hx
      simp [Expr.height]
    next =>
      obtain ⟨⟨e', ts'⟩, hp, hx⟩ := bind_eq_ok.1 hx
      obtain ⟨ts'', -, hx⟩ := bind_eq_ok.1 hx
      cases hx
      have := he _ _ _ hp
      omega
    next =>
      obtain ⟨⟨es, ts'⟩, hes, hx⟩ := bind_eq_ok.1 hx
      cases hx
      have := heights_of_commaList he hes
      rw [Expr.height]
      omega
    · cases hx

section Level
variable {n : Nat} (hl : ∀ m, n = m + 1 → Low (grammar stop m) m)
include hl

theorem low_of_descend {α : Type} {read : Grammar → Parse α} {ts : List Token}
    {x : α × List Token} (h : descend stop (below stop n) read ts = .ok x) :
    ∃ m, n = m + 1 ∧ Low (grammar stop m) m ∧ read (grammar stop m) ts = .ok x := by
  cases n with
  | zero => cases h
  | succ m => exact ⟨m, rfl, hl m rfl, h⟩

theorem low_expr : Within (expr stop (below stop n)) (tallest n) := by
  intro ts e rest h
  obtain ⟨m, rfl, hg, hx⟩ := low_of_descend hl h
  exact hg.conditional ts e rest hx

theorem low_suffix : Adds (suffix stop (below stop n)) (tallest n + 1) n := by
  intro target ts e rest h
  unfold suffix at h
  split at h
  next i l ts =>
    obtain ⟨m, rfl, hg, hx⟩ := low_of_descend hl h
    obtain ⟨⟨args, ts'⟩, ha, hs⟩ := bind_eq_ok.1 hx
    have h₁ := heights_of_commaList hg.expr ha
    have h₂ := hg.suffix _ _ _ _ hs
    have h₃ := tallest_mono m
    rw [Expr.height] at h₂
    omega
  next i l ts =>
    obtain ⟨m, rfl, hg, hx⟩ := low_of_descend hl h
    obtain ⟨⟨j, ts'⟩, hj, hx⟩ := bind_eq_ok.1 hx
    obtain ⟨ts'', -, hs⟩ := bind_eq_ok.1 hx
    have h₁ := hg.expr _ _ _ hj
    have h₂ := hg.suffix _ _ _ _ hs
    have h₃ := tallest_mono m
    rw [Expr.height] at h₂
    omega
  · cases h
    omega

theorem low_unary : Within (unary stop (below stop n)) (tallestOperand n 0) := by
  intro ts e rest h
  rw [unary] at h
  split at h
  next op _ =>
    obtain ⟨⟨x, ts'⟩, hx, hr⟩ := bind_eq_ok.1 h
    obtain ⟨m, rfl, hg, hu⟩ := low_of_descend hl hx
    cases hr
    have h₁ := hg.unary _ _ _ hu
    have h₂ := tallest_mono m
    simp only [Expr.height, tallestOperand] at h₁ ⊢
    omega
  next =>
    obtain ⟨⟨x, ts'⟩, hp, hs⟩ := bind_eq_ok.1 h
    have h₁ := Within.primary (low_expr hl) _ _ _ hp
    have h₂ := low_suffix hl _ _ _ _ hs
    rw [tallestOperand]
    omega

theorem low_chain (r : Nat) : Adds (chain stop (below stop n) (r + 1)) (tallestOperand n r)
    (chainLength (r + 1) n) := by
  intro left ts e rest h
  rw [chain] at h
  split at h
  next =>
    cases h
    omega
  next op _ =>
    obtain ⟨m, rfl, hg, hx⟩ := low_of_descend hl h
    obtain ⟨⟨right, ts'⟩, hr, hc⟩ := bind_eq_ok.1 hx
    have h₁ := hg.operand r _ _ _ hr
    have h₂ := tallestOperand_mono m r
    dsimp only at hc
    by_cases h3 : r + 1 = 3
    · rw [if_pos h3] at hc
      cases hc
      rw [chainLength, if_pos h3, Expr.height]
      omega
    · rw [if_neg h3] at hc
      have h₃ := hg.chain r _ _ _ _ hc
      rw [chainLength, if_neg h3, Expr.height] at h₃
      rw [chainLength, if_neg h3]
      omega

theorem low_operand (r : Nat) : Within (operand stop (below stop n) r) (tallestOperand n r) := by
  induction r with
  | zero => exact low_unary hl
  | succ r ih =>
    intro ts e rest h
    obtain ⟨⟨left, ts'⟩, ho, hc⟩ := bind_eq_ok.1 h
    have h₁ := ih _ _ _ ho
    have h₂ := low_chain hl r _ _ _ _ hc
    rw [tallestOperand]
    omega

theorem low_conditional : Within (conditional stop (below stop n)) (tallest (n + 1)) := by
  intro ts e rest h
  obtain ⟨⟨test, ts'⟩, ht, hq⟩ := bind_eq_ok.1 h
  have h₁ := low_operand hl 5 _ _ _ ht
  rw [tallestOperand_five] at h₁
  rw [tallest]
  dsimp only at hq
  split at hq
  next =>
    obtain ⟨⟨yes, ts''⟩, hy, hq⟩ := bind_eq_ok.1 hq
    obtain ⟨ts₁, -, hq⟩ := bind_eq_ok.1 hq
    obtain ⟨⟨no, ts₂⟩, hn, hq⟩ := bind_eq_ok.1 hq
    cases hq
    have h₂ := low_expr hl _ _ _ hy
    have h₃ := low_expr hl _ _ _ hn
    obtain ⟨m, rfl, -, -⟩ := low_of_descend hl hy
    change (Expr.cond test yes no).height ≤ _
    rw [Expr.height]
    omega
  next =>
    cases hq
    omega

theorem low_level : Low (grammar stop n) n := by
  rw [grammar_eq_level]
  exact ⟨low_expr hl, low_conditional hl, low_operand hl, low_chain hl, low_unary hl, low_suffix hl⟩

end Level

theorem low_grammar (n : Nat) : Low (grammar stop n) n := by
  induction n with
  | zero => exact low_level nofun
  | succ n ih => exact low_level (by rintro m ⟨⟩; exact ih)

end Parser

end Tether
