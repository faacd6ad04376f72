import Mathlib.Algebra.Order.Ring.Int
import Tether.Eval.Evaluator
import Tether.Proofs.Outcome

/-! Arithmetic on integers. A calculation gives its exact value if no operation of it divides by
zero or leaves the 64-bit range; otherwise it fails as the first one that does
(`Calculation.eval_expr`). -/
namespace Tether

namespace Number

def Fits (n : Int) : Prop := -2 ^ 63 ≤ n ∧ n < 2 ^ 63

instance (n : Int) : Decidable (Fits n) := inferInstanceAs (Decidable (_ ∧ _))

theorem inRange_iff {n : Int} : inRange n = true ↔ Fits n := by
  rw [inRange, Bool.and_eq_true, decide_eq_true_eq, decide_eq_true_eq, Fits]
  rfl

theorem toInt_ofInt {n : Int} (h : Fits n) : (Int64.ofInt n).toInt = n :=
  Int64.toInt_ofInt_of_le h.1 h.2

theorem toInt_ofNat {n : Nat} (h : Fits n) : (Int64.ofNat n).toInt = n := by
  rw [← Int64.ofInt_eq_ofNat]
  exact toInt_ofInt h

theorem fits_toInt (n : Int64) : Fits n.toInt := ⟨n.le_toInt, n.toInt_lt⟩

/-- Only the least integer has no opposite. -/
theorem fits_natAbs {n : Int64} (h : n ≠ Int64.minValue) : Fits n.toInt.natAbs := by
  have hlo := n.le_toInt
  have hhi := n.toInt_lt
  have hne : n.toInt ≠ -2 ^ 63 := fun he => h (Int64.toInt_inj.1 he)
  constructor <;> omega

end Number

open Number

namespace Value

theorem ofInt_of_fits {n : Int} (h : Fits n) : ∃ m : Int64, m.toInt = n ∧ ofInt n = .ok (.int m) :=
  ⟨Int64.ofInt n, toInt_ofInt h, if_pos (inRange_iff.2 h)⟩

theorem ofInt_of_not_fits {n : Int} (h : ¬ Fits n) : ofInt n = .error (.type .overflow) :=
  if_neg (mt inRange_iff.1 h)

end Value

namespace Evaluator

/-- Operators other than `and` and `or` need both values, the left one first. -/
theorem eval_strict {d : Document} {r : Reach} {s : Scope} {op : BinaryOp} (ha : op ≠ .and)
    (ho : op ≠ .or) (x y : Expr) :
    eval d r s (.binary op x y) =
      eval d r s x >>= fun v => eval d r s y >>= fun w => Value.binary op v w := by
  cases op with
  | and => exact absurd rfl ha
  | or => exact absurd rfl ho
  | _ => rw [eval] <;> nofun

end Evaluator

inductive IntOp where
  | add | sub | mul | div | rem

namespace IntOp

def symbol : IntOp → BinaryOp
  | add => .add
  | sub => .sub
  | mul => .mul
  | div => .div
  | rem => .rem

/-- What an operator stands for: division goes towards zero, and the sign of a remainder is that of
the dividend. -/
def exact : IntOp → Int → Int → Int
  | add => (· + ·)
  | sub => (· - ·)
  | mul => (· * ·)
  | div => Int.tdiv
  | rem => Int.tmod

theorem binary_symbol (op : IntOp) (m n : Int64) :
    Value.binary op.symbol (.int m) (.int n) = Value.intArith op.symbol m.toInt n.toInt := by
  cases op <;> rfl

end IntOp

inductive Operation where
  | neg (a : Int)
  | binary (op : IntOp) (a b : Int)

namespace Operation

def value : Operation → Int
  | neg a => -a
  | binary op a b => op.exact a b

def DividesByZero : Operation → Prop
  | binary .div _ b => b = 0
  | binary .rem _ b => b = 0
  | _ => False

/-- What has to be in range: the value, and for a remainder also the quotient. -/
def results : Operation → List Int
  | binary .rem a b => [a.tdiv b, a.tmod b]
  | o => [o.value]

def Safe (o : Operation) : Prop := ¬ o.DividesByZero ∧ ∀ n ∈ o.results, Fits n

/-- Why an operation that is not safe fails. -/
inductive Fails (o : Operation) : EvalError → Prop
  | divisionByZero (h : o.DividesByZero) : Fails o .divisionByZero
  | overflow (hd : ¬ o.DividesByZero) {n : Int} (hn : n ∈ o.results) (hf : ¬ Fits n) :
    Fails o (.type .overflow)

variable {o : Operation} {e e' : EvalError}

theorem Fails.not_safe (h : o.Fails e) : ¬ o.Safe := by
  rintro ⟨hd, hr⟩
  cases h with
  | divisionByZero h => exact hd h
  | overflow _ hn hf => exact hf (hr _ hn)

theorem Fails.unique (h : o.Fails e) (h' : o.Fails e') : e = e' := by
  cases h with
  | divisionByZero h =>
    cases h' with
    | divisionByZero => rfl
    | overflow hd => exact absurd h hd
  | overflow hd =>
    cases h' with
    | divisionByZero h => exact absurd h hd
    | overflow => rfl

def FirstFailure (ops : List Operation) (e : EvalError) : Prop :=
  ∃ before o after, ops = before ++ o :: after ∧ (∀ p ∈ before, p.Safe) ∧ o.Fails e

variable {ops ops' : List Operation}

theorem FirstFailure.append (h : FirstFailure ops e) (ops' : List Operation) :
    FirstFailure (ops ++ ops') e := by
  obtain ⟨before, o, after, rfl, hb, ho⟩ := h
  exact ⟨before, o, after ++ ops', by simp, hb, ho⟩

theorem FirstFailure.behind (h : FirstFailure ops' e) (hs : ∀ o ∈ ops, o.Safe) :
    FirstFailure (ops ++ ops') e := by
  obtain ⟨before, o, after, rfl, hb, ho⟩ := h
  exact ⟨ops ++ before, o, after, by simp, List.forall_mem_append.2 ⟨hs, hb⟩, ho⟩

theorem FirstFailure.not_safe (h : FirstFailure ops e) : ¬ ∀ o ∈ ops, o.Safe := by
  obtain ⟨before, o, after, rfl, -, ho⟩ := h
  exact fun hs => ho.not_safe (hs o (by simp))

theorem FirstFailure.unique (h : FirstFailure ops e) (h' : FirstFailure ops e') : e = e' := by
  classical
  -- both are the first operation that is not safe
  have hfirst {before after : List Operation} {o : Operation} {e : EvalError}
      (h : ops = before ++ o :: after) (hb : ∀ p ∈ before, p.Safe) (ho : o.Fails e) :
      ops.find? (fun o => ¬ o.Safe) = some o :=
    List.find?_eq_some_iff_append.2
      ⟨by simpa using ho.not_safe, before, after, h, by simpa using hb⟩
  obtain ⟨before, o, after, h, hb, ho⟩ := h
  obtain ⟨before', o', after', h', hb', ho'⟩ := h'
  obtain rfl : o = o' := Option.some.inj ((hfirst h hb ho).symm.trans (hfirst h' hb' ho'))
  exact ho.unique ho'

/-- What comes of operations that lead to a value, one after the other. -/
inductive Computes (ops : List Operation) (n : Int) : Result Value → Prop
  | exact (h : ∀ o ∈ ops, o.Safe) {m : Int64} (hm : m.toInt = n) : Computes ops n (.ok (.int m))
  | fails {e : EvalError} (h : FirstFailure ops e) : Computes ops n (.error e)

theorem Computes.bind {m n : Int} {x : Result Value} {f : Value → Result Value}
    (h : Computes ops m x) (hf : ∀ k : Int64, k.toInt = m → Computes ops' n (f (.int k))) :
    Computes (ops ++ ops') n (x >>= f) := by
  cases h with
  | fails h => exact .fails (h.append ops')
  | exact hs hm =>
    have hy := hf _ hm
    rw [ok_bind]
    generalize f _ = y at hy ⊢
    cases hy with
    | fails h => exact .fails (h.behind hs)
    | exact hs' hn => exact .exact (List.forall_mem_append.2 ⟨hs, hs'⟩) hn

theorem Computes.of_safe (h : o.Safe) {m : Int64} {n : Int} (hm : m.toInt = n) :
    Computes [o] n (.ok (.int m)) :=
  .exact (by simpa using h) hm

theorem Computes.of_fails (h : o.Fails e) (n : Int) : Computes [o] n (.error e) :=
  .fails ⟨[], o, [], rfl, by simp, h⟩

theorem computes_ofInt (hd : ¬ o.DividesByZero) (hr : o.results = [o.value]) :
    Computes [o] o.value (Value.ofInt o.value) := by
  by_cases h : Fits o.value
  · obtain ⟨m, hm, hv⟩ := Value.ofInt_of_fits h
    rw [hv]
    exact .of_safe ⟨hd, by simpa [hr] using h⟩ hm
  · rw [Value.ofInt_of_not_fits h]
    exact .of_fails (.overflow hd (by simp [hr]) h) _

theorem computes_neg (n : Int64) :
    Computes [.neg n.toInt] (-n.toInt) (Value.neg (.int n)) :=
  computes_ofInt (o := .neg n.toInt) not_false rfl

theorem computes_rem {a b : Int} (hb : b ≠ 0) :
    Computes [.binary .rem a b] (a.tmod b)
      (Value.ofInt (a.tdiv b) >>= fun _ => Value.ofInt (a.tmod b)) := by
  have hd : ¬ (binary .rem a b).DividesByZero := hb
  by_cases hq : Fits (a.tdiv b)
  · obtain ⟨q, -, hv⟩ := Value.ofInt_of_fits hq
    rw [hv, ok_bind]
    by_cases hr : Fits (a.tmod b)
    · obtain ⟨m, hm, hv⟩ := Value.ofInt_of_fits hr
      rw [hv]
      exact .of_safe ⟨hd, by simpa [results] using ⟨hq, hr⟩⟩ hm
    · rw [Value.ofInt_of_not_fits hr]
      exact .of_fails (.overflow hd (by simp [results]) hr) _
  · rw [Value.ofInt_of_not_fits hq]
    exact .of_fails (.overflow hd (by simp [results]) hq) _

theorem computes_binary (op : IntOp) (m n : Int64) :
    Computes [.binary op m.toInt n.toInt] (op.exact m.toInt n.toInt)
      (Value.binary op.symbol (.int m) (.int n)) := by
  rw [op.binary_symbol]
  cases op with
  | add => exact computes_ofInt (o := .binary .add m.toInt n.toInt) not_false rfl
  | sub => exact computes_ofInt (o := .binary .sub m.toInt n.toInt) not_false rfl
  | mul => exact computes_ofInt (o := .binary .mul m.toInt n.toInt) not_false rfl
  | div =>
    rw [IntOp.symbol, Value.intArith]
    split
    next hb => exact .of_fails (o := .binary .div m.toInt n.toInt) (.divisionByZero hb) _
    next hb => exact computes_ofInt (o := .binary .div m.toInt n.toInt) hb rfl
  | rem =>
    rw [IntOp.symbol, Value.intArith]
    split
    next hb => exact .of_fails (o := .binary .rem m.toInt n.toInt) (.divisionByZero hb) _
    next hb => exact computes_rem hb

end Operation

/-- An expression of integers, the sign and the operators of integer arithmetic. -/
inductive Calculation where
  | int (n : Int64)
  | neg (a : Calculation)
  | binary (op : IntOp) (a b : Calculation)

namespace Calculation
open Operation

def expr : Calculation → Expr
  | int n => .int n
  | neg a => .unary .neg a.expr
  | binary op a b => .binary op.symbol a.expr b.expr

def value : Calculation → Int
  | int n => n.toInt
  | neg a => -a.value
  | binary op a b => op.exact a.value b.value

/-- The operations with their exact operands, those of a subexpression before its own. -/
def operations : Calculation → List Operation
  | int _ => []
  | neg a => a.operations ++ [.neg a.value]
  | binary op a b => a.operations ++ (b.operations ++ [.binary op a.value b.value])

variable (d : Document) (r : Reach) (s : Scope)

theorem computes_expr (c : Calculation) :
    Computes c.operations c.value (Evaluator.eval d r s c.expr) := by
  induction c with
  | int n => exact .exact (by simp [operations]) rfl
  | neg a ih =>
    rw [expr, Evaluator.eval]
    refine ih.bind fun n hn => ?_
    rw [value, ← hn]
    exact computes_neg n
  | binary op a b iha ihb =>
    rw [expr, Evaluator.eval_strict (by cases op <;> nofun) (by cases op <;> nofun)]
    refine iha.bind fun m hm => ihb.bind fun n hn => ?_
    rw [value, ← hm, ← hn]
    exact computes_binary op m n

/-- A calculation gives its exact value, or fails as the first of its operations that divides by
zero or leaves the range. -/
theorem eval_expr (c : Calculation) :
    (∀ v, Evaluator.eval d r s c.expr = .ok v ↔
      (∀ o ∈ c.operations, o.Safe) ∧ ∃ n : Int64, v = .int n ∧ n.toInt = c.value) ∧
    ∀ e, Evaluator.eval d r s c.expr = .error e ↔ FirstFailure c.operations e := by
  have h := c.computes_expr d r s
  generalize Evaluator.eval d r s c.expr = x at h ⊢
  cases h with
  | exact hs hm =>
    refine ⟨fun v => ⟨?_, ?_⟩, fun e => ⟨nofun, fun h => absurd hs h.not_safe⟩⟩
    · rintro ⟨⟩
      exact ⟨hs, _, rfl, hm⟩
    · rintro ⟨-, n, rfl, hn⟩
      rw [Int64.toInt_inj.1 (hm.trans hn.symm)]
  | fails h =>
    refine ⟨fun v => ⟨nofun, fun hv => absurd hv.1 h.not_safe⟩, fun e => ⟨?_, fun h' => ?_⟩⟩
    · rintro ⟨⟩
      exact h
    · rw [h.unique h']

end Calculation

end Tether
