import Tether.Proofs.Eval.Arithmetic
import Tether.Proofs.Number.Nearest

/-! Equality of integers, which is that of the floating-point numbers they become, beside their order
and the equality of lists, which are exact: `exactEquality_iff`. -/
namespace Tether
open Number

theorem natAbs_toInt_lt (a : Int64) : a.toInt.natAbs < 2 ^ 64 := by
  have h := a.toInt_lt
  have h' := a.le_toInt
  omega

namespace Value

theorem equal_int (a b : Int64) :
    equal (.int a) (.int b) = decide (nearest a.toInt = nearest b.toInt) :=
  ofInt_beq (natAbs_toInt_lt a) (natAbs_toInt_lt b)

theorem equal_list_int (a b : Int64) :
    equal (.list [.int a]) (.list [.int b]) = decide (a = b) := by
  by_cases h : a = b <;> simp [equal, number?, same, sameItems, h]

end Value

namespace Evaluator
variable {d : Document} {r : Reach} {s : Scope} {x y : Expr} {a b : Int64} {n : Nat}

theorem eval_binary (op : BinaryOp) (ha : op ≠ .and) (ho : op ≠ .or) {v w : Value}
    (hx : eval d r s x = .ok v) (hy : eval d r s y = .ok w) :
    eval d r s (.binary op x y) = Value.binary op v w := by
  rw [eval_strict ha ho, hx, hy, ok_bind, ok_bind]

theorem eval_singleton {v : Value} (hx : eval d r s x = .ok v) :
    eval d r s (.list [x]) = .ok (.list [v]) := by
  simp only [eval, evalList, hx]
  rfl

/-- Where integers are compared for equality, they are floating-point numbers. -/
theorem eval_eq (hx : eval d r s x = .ok (.int a)) (hy : eval d r s y = .ok (.int b)) :
    eval d r s (.binary .eq x y) = .ok (.bool (decide (nearest a.toInt = nearest b.toInt))) := by
  rw [eval_binary .eq nofun nofun hx hy, Value.binary, Value.equal_int]

theorem eval_eq_singleton (hx : eval d r s x = .ok (.int a)) (hy : eval d r s y = .ok (.int b)) :
    eval d r s (.binary .eq (.list [x]) (.list [y])) = .ok (.bool (decide (a = b))) := by
  rw [eval_binary .eq nofun nofun (eval_singleton hx) (eval_singleton hy), Value.binary,
    Value.equal_list_int]

theorem eval_lt (hx : eval d r s x = .ok (.int a)) (hy : eval d r s y = .ok (.int b)) :
    eval d r s (.binary .lt x y) = .ok (.bool (decide (a.toInt < b.toInt))) := by
  have hc : (compare a.toInt b.toInt == .lt) = decide (a.toInt < b.toInt) := by
    rw [Bool.eq_iff_iff, beq_iff_eq, compare_lt_iff_lt, decide_eq_true_eq]
  rw [eval_binary .lt nofun nofun hx hy, ← hc]
  rfl

theorem eval_gt (hx : eval d r s x = .ok (.int a)) (hy : eval d r s y = .ok (.int b)) :
    eval d r s (.binary .gt x y) = .ok (.bool (decide (b.toInt < a.toInt))) := by
  have hc : (compare a.toInt b.toInt == .gt) = decide (b.toInt < a.toInt) := by
    rw [Bool.eq_iff_iff, beq_iff_eq, compare_gt_iff_gt, decide_eq_true_eq]
  rw [eval_binary .gt nofun nofun hx hy, ← hc]
  rfl

theorem eval_contains
    (hc : eval d (reach d (n + 1)) s (.path ["contains"]) = .ok (.func (.builtin "contains")))
    (hx : eval d (reach d (n + 1)) s x = .ok (.int a))
    (hy : eval d (reach d (n + 1)) s y = .ok (.int b)) :
    eval d (reach d (n + 1)) s (.call (.path ["contains"]) [.list [x], y]) =
      .ok (.bool (decide (nearest a.toInt = nearest b.toInt))) := by
  rw [eval, hc]
  simp only [evalList, eval_singleton hx, hy]
  change Except.ok (Value.bool ([Value.int a].any (·.equal (.int b)))) = _
  rw [List.any_cons, List.any_nil, Bool.or_false, Value.equal_int]

theorem one_comparison (m n : Int) {p : BinaryOp → Prop} (hlt : p .lt ↔ m < n)
    (heq : p .eq ↔ m = n) (hgt : p .gt ↔ n < m) : ∃! op, op ∈ [BinaryOp.lt, .eq, .gt] ∧ p op := by
  have hops {q : BinaryOp → Prop} : (∀ op, op ∈ [BinaryOp.lt, .eq, .gt] ∧ p op → q op) ↔
      (m < n → q .lt) ∧ (m = n → q .eq) ∧ (n < m → q .gt) := by
    simp [or_imp, forall_and, hlt, heq, hgt, and_imp]
  rcases lt_trichotomy m n with h | h | h
  · exact ⟨.lt, ⟨by simp, hlt.2 h⟩, hops.2 ⟨fun _ => rfl, by omega, by omega⟩⟩
  · exact ⟨.eq, ⟨by simp, heq.2 h⟩, hops.2 ⟨by omega, fun _ => rfl, by omega⟩⟩
  · exact ⟨.gt, ⟨by simp, hgt.2 h⟩, hops.2 ⟨by omega, by omega, fun _ => rfl⟩⟩

/-- Of two integers, equality tells whether they are the same one, as it does in lists and of
members, and just one of the three comparisons holds. -/
structure ExactEquality (d : Document) (r : Reach) (s : Scope) (x y : Expr) (a b : Int64) :
    Prop where
  eq : eval d r s (.binary .eq x y) = .ok (.bool true) ↔ a = b
  one : ∃! op, op ∈ [BinaryOp.lt, .eq, .gt] ∧ eval d r s (.binary op x y) = .ok (.bool true)
  items : eval d r s (.binary .eq (.list [x]) (.list [y])) = eval d r s (.binary .eq x y)
  member : eval d r s (.call (.path ["contains"]) [.list [x], y]) = eval d r s (.binary .eq x y)

/-- Equality of integers is exact when no others are rounded to the same one, as happens from
`2 ^ 53` on. -/
theorem exactEquality_iff
    (hc : eval d (reach d (n + 1)) s (.path ["contains"]) = .ok (.func (.builtin "contains")))
    (hx : eval d (reach d (n + 1)) s x = .ok (.int a))
    (hy : eval d (reach d (n + 1)) s y = .ok (.int b)) :
    eval d (reach d (n + 1)) s (.binary .eq x y) =
      .ok (.bool (decide (nearest a.toInt = nearest b.toInt))) ∧
    (ExactEquality d (reach d (n + 1)) s x y a b ↔
      (nearest a.toInt = nearest b.toInt → a = b)) ∧
    (a.toInt.natAbs < 2 ^ 53 ∨ b.toInt.natAbs < 2 ^ 53 →
      ExactEquality d (reach d (n + 1)) s x y a b) := by
  have he := eval_eq hx hy
  have hiff : ExactEquality d (reach d (n + 1)) s x y a b ↔
      (nearest a.toInt = nearest b.toInt → a = b) := by
    refine ⟨fun h hn => ?_, fun h => ?_⟩
    · rw [← h.eq, he, decide_eq_true hn]
    · have hn : decide (nearest a.toInt = nearest b.toInt) = decide (a = b) := by
        rw [decide_eq_decide]
        exact ⟨h, fun h => by rw [h]⟩
      rw [hn] at he
      refine ⟨?_, ?_, ?_, ?_⟩
      · simp [he]
      · refine one_comparison a.toInt b.toInt ?_ ?_ ?_
        · simp [eval_lt hx hy]
        · simp [he, ← Int64.toInt_inj]
        · simp [eval_gt hx hy]
      · rw [eval_eq_singleton hx hy, he]
      · rw [eval_contains hc hx hy, hn, he]
  refine ⟨he, hiff, fun h => hiff.2 fun hn => ?_⟩
  rw [← Int64.toInt_inj]
  rcases h with h | h
  · exact (nearest_inj h).1 hn
  · exact ((nearest_inj h).1 hn.symm).symm

/-- Two sums with the same value, which is negative. -/
theorem exactEquality_iff_negative :
    ExactEquality ⟨[]⟩ (reach ⟨[]⟩ maxDepth) ⟨[], []⟩ (.binary .sub (.int 1) (.int 4))
      (.unary .neg (.int 3)) (-3) (-3) :=
  (exactEquality_iff (by rfl) (by rfl) (by rfl)).2.2 (.inl (by decide))

/-- Two neighbours that become the same floating-point number. -/
theorem exactEquality_iff_neighbours :
    (⟨[]⟩ : Document).evaluate "9007199254740992 == 9007199254740993" = .ok (.bool true) ∧
    (⟨[]⟩ : Document).evaluate "9007199254740992 < 9007199254740993" = .ok (.bool true) ∧
    (⟨[]⟩ : Document).evaluate "[9007199254740992] == [9007199254740993]" = .ok (.bool false) := by
  refine ⟨?_, by cbv, by cbv⟩
  have hp : Expr.parse (Text.trim "9007199254740992 == 9007199254740993".toList) =
      .ok (.binary .eq (.int 9007199254740992) (.int 9007199254740993)) := by cbv
  have hn : nearest (9007199254740992 : Int64).toInt = nearest (9007199254740993 : Int64).toInt := by
    decide
  rw [Document.evaluate, hp]
  refine (eval_eq (a := 9007199254740992) (b := 9007199254740993) (by rfl) (by rfl)).trans ?_
  rw [decide_eq_true hn]

end Evaluator

end Tether
