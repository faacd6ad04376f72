import Mathlib.Algebra.Ring.Parity
import Mathlib.Data.List.Perm.Basic
import Tether.Proofs.Eval.Arithmetic

/-! The functions on integers are exact or fail: `Evaluator.call_exact`. -/
namespace Tether
open Number

namespace Builtin
variable {k : Int} {n : Int64} {ns : List Int64} {side : Ordering}

/-- The sums of the first integers, all of them added to `k`, are in range. -/
def Totals (k : Int) (ns : List Int64) : Prop :=
  ∀ part, part <+: ns → Fits (k + (part.map Int64.toInt).sum)

theorem Totals.start (h : Totals k ns) : Fits k := by
  simpa using h [] ns.nil_prefix

theorem totals_nil : Totals k [] ↔ Fits k := by
  simp [Totals]

theorem totals_cons : Totals k (n :: ns) ↔ Fits k ∧ Totals (k + n.toInt) ns := by
  constructor
  · refine fun h => ⟨h.start, fun part hp => ?_⟩
    simpa [Int.add_assoc] using h (n :: part) ((List.prefix_cons_inj n).2 hp)
  · rintro ⟨hk, h⟩ part hp
    rcases List.prefix_cons_iff.1 hp with rfl | ⟨part, rfl, hn⟩
    · simpa using hk
    · simpa [Int.add_assoc] using h part hn

theorem addItems_of_totals (h : Totals k ns) :
    addItems k none (ns.map .int) = .ok (k + (ns.map Int64.toInt).sum, none) := by
  induction ns generalizing k with
  | nil => simp [addItems]
  | cons n ns ih =>
    obtain ⟨-, h⟩ := totals_cons.1 h
    obtain ⟨m, -, hm⟩ := Value.ofInt_of_fits h.start
    rw [List.map_cons, addItems, hm, ok_bind, ih h, List.map_cons, List.sum_cons, Int.add_assoc]

theorem addItems_of_not_totals (hk : Fits k) (h : ¬ Totals k ns) :
    addItems k none (ns.map .int) = .error (.type .overflow) := by
  induction ns generalizing k with
  | nil => exact absurd (totals_nil.2 hk) h
  | cons n ns ih =>
    rw [List.map_cons, addItems]
    by_cases hn : Fits (k + n.toInt)
    · obtain ⟨m, -, hm⟩ := Value.ofInt_of_fits hn
      rw [hm, ok_bind]
      exact ih hn fun ht => h (totals_cons.2 ⟨hk, ht⟩)
    · rw [Value.ofInt_of_not_fits hn, error_bind]

theorem sum_of_totals (h : Totals 0 ns) :
    ∃ n : Int64, n.toInt = (ns.map Int64.toInt).sum ∧
      sum (.list (ns.map .int)) = .ok (.int n) := by
  have ha := addItems_of_totals h
  rw [Int.zero_add] at ha
  obtain ⟨n, hn, hv⟩ := Value.ofInt_of_fits (h ns (List.prefix_refl ns))
  rw [Int.zero_add] at hn hv
  refine ⟨n, hn, ?_⟩
  rw [sum, Value.asList, ok_bind, ha, ok_bind]
  exact hv

theorem sum_of_not_totals (h : ¬ Totals 0 ns) :
    sum (.list (ns.map .int)) = .error (.type .overflow) := by
  rw [sum, Value.asList, ok_bind, addItems_of_not_totals (by decide) h, error_bind]

/-- The first integer does not stand on the side `side` of the second. -/
def Behind (side : Ordering) (a b : Int64) : Prop := compare a.toInt b.toInt ≠ side

variable {a b c m : Int64}

theorem behind_gt : Behind .gt a b ↔ a ≤ b := by
  rw [Behind, Ne, compare_gt_iff_gt, not_lt, Int64.le_iff_toInt_le]

theorem behind_lt : Behind .lt a b ↔ b ≤ a := by
  rw [Behind, Ne, compare_lt_iff_lt, not_lt, Int64.le_iff_toInt_le]

theorem Behind.trans (hs : side ≠ .eq) (h : Behind side a b) (h' : Behind side b c) :
    Behind side a c := by
  cases side with
  | lt => exact behind_lt.2 (Int64.le_trans (behind_lt.1 h') (behind_lt.1 h))
  | eq => exact absurd rfl hs
  | gt => exact behind_gt.2 (Int64.le_trans (behind_gt.1 h) (behind_gt.1 h'))

theorem Behind.antisymm (hs : side ≠ .eq) (h : Behind side a b) (h' : Behind side b a) : a = b := by
  cases side with
  | lt => exact Int64.le_antisymm (behind_lt.1 h') (behind_lt.1 h)
  | eq => exact absurd rfl hs
  | gt => exact Int64.le_antisymm (behind_gt.1 h) (behind_gt.1 h')

theorem behind_total (hs : side ≠ .eq) (a b : Int64) : Behind side a b ∨ Behind side b a := by
  cases side with
  | lt => exact (Int64.le_total b a).imp behind_lt.2 behind_lt.2
  | eq => exact absurd rfl hs
  | gt => exact (Int64.le_total a b).imp behind_gt.2 behind_gt.2

theorem extreme_cons_int (best n : Int64) (vs : List Value) :
    extreme side (.int best) (.int n :: vs) =
      if compare n.toInt best.toInt = side then extreme side (.int n) vs
      else extreme side (.int best) vs := by
  rw [extreme, Value.order, ok_bind]
  simp only [beq_iff_eq]

theorem extreme_int (hs : side ≠ .eq) (best : Int64) (ns : List Int64) :
    ∃ m ∈ best :: ns, (∀ n ∈ best :: ns, Behind side n m) ∧
      extreme side (.int best) (ns.map .int) = .ok (.int m) := by
  induction ns generalizing best with
  | nil =>
    refine ⟨best, List.mem_cons_self, fun n hn => ?_, rfl⟩
    rw [List.mem_singleton.1 hn]
    exact (behind_total hs best best).elim id id
  | cons n ns ih =>
    rw [List.map_cons, extreme_cons_int]
    by_cases hn : Behind side n best
    · obtain ⟨m, hm, hb, hv⟩ := ih best
      obtain ⟨hbest, hns⟩ := List.forall_mem_cons.1 hb
      refine ⟨m, ?_, ?_, by rw [if_neg hn, hv]⟩
      · rcases List.mem_cons.1 hm with rfl | hm
        · exact List.mem_cons_self
        · exact List.mem_cons_of_mem best (List.mem_cons_of_mem n hm)
      · exact List.forall_mem_cons.2 ⟨hbest, List.forall_mem_cons.2 ⟨hn.trans hs hbest, hns⟩⟩
    · obtain ⟨m, hm, hb, hv⟩ := ih n
      have hbn := (behind_total hs n best).resolve_left hn
      exact ⟨m, List.mem_cons_of_mem best hm,
        List.forall_mem_cons.2 ⟨hbn.trans hs (hb n List.mem_cons_self), hb⟩,
        by rw [if_pos (not_not.1 hn), hv]⟩

theorem picker_int (name : String) (hs : side ≠ .eq) (hn : ns ≠ []) :
    ∃ m ∈ ns, (∀ n ∈ ns, Behind side n m) ∧ ∀ (ms : List Int64) (call : Call), ms.Perm ns →
      (picker name side).run call (ms.map .int) = .ok (.int m) := by
  have hpick {ms : List Int64} (hm : ms ≠ []) : ∃ m ∈ ms, (∀ n ∈ ms, Behind side n m) ∧
      ∀ call, (picker name side).run call (ms.map .int) = .ok (.int m) := by
    obtain ⟨m, ms, rfl⟩ := List.exists_cons_of_ne_nil hm
    obtain ⟨m, hm, hb, hv⟩ := extreme_int hs m ms
    exact ⟨m, hm, hb, fun _ => hv⟩
  obtain ⟨m, hm, hb, -⟩ := hpick hn
  refine ⟨m, hm, hb, fun ms call hp => ?_⟩
  obtain ⟨k, hk, hbk, hv⟩ := hpick fun h => hn (List.nil_perm.1 (h ▸ hp))
  rw [hv, Behind.antisymm hs (hb k (hp.mem_iff.1 hk)) (hbk m (hp.mem_iff.2 hm))]

theorem range_of_le (h : b.toInt - a.toInt ≤ 2 ^ 20) :
    ∃ ns : List Int64, ns.Pairwise (· < ·) ∧ (∀ n, n ∈ ns ↔ a ≤ n ∧ n < b) ∧
      range (.int a) (.int b) = .ok (.list (ns.map .int)) := by
  have hfits {i : Nat} (hi : i < (b.toInt - a.toInt).toNat) : Fits (a.toInt + i) := by
    have ha := a.le_toInt
    have hb := b.toInt_lt
    constructor <;> omega
  refine ⟨(List.range (b.toInt - a.toInt).toNat).map fun (i : Nat) => Int64.ofInt (a.toInt + i),
    ?_, ?_, ?_⟩
  · refine List.pairwise_map.2 (List.Pairwise.imp_of_mem ?_ List.pairwise_lt_range)
    intro i j hi hj hij
    rw [Int64.lt_iff_toInt_lt, toInt_ofInt (hfits (List.mem_range.1 hi)),
      toInt_ofInt (hfits (List.mem_range.1 hj))]
    omega
  · intro n
    rw [List.mem_map, Int64.le_iff_toInt_le, Int64.lt_iff_toInt_lt]
    constructor
    · rintro ⟨i, hi, rfl⟩
      have hi := List.mem_range.1 hi
      rw [toInt_ofInt (hfits hi)]
      omega
    · rintro ⟨ha, hb⟩
      refine ⟨(n.toInt - a.toInt).toNat, List.mem_range.2 (by omega), ?_⟩
      rw [← Int64.toInt_inj, toInt_ofInt (hfits (by omega))]
      omega
  · rw [range, Value.asInt, Value.asInt, ok_bind, ok_bind, if_neg (by rw [maxGenerated]; omega),
      List.map_map]
    rfl

theorem range_of_lt (h : 2 ^ 20 < b.toInt - a.toInt) :
    range (.int a) (.int b) = .error (.tooLarge "range" (2 ^ 20)) := by
  rw [range, Value.asInt, Value.asInt, ok_bind, ok_bind, if_pos (by rw [maxGenerated]; omega)]
  rfl

theorem abs_int (hn : n ≠ Int64.minValue) :
    ∃ m : Int64, m.toInt = |n.toInt| ∧ abs (.int n) = .ok (.int m) := by
  rw [abs, Value.asInt, ok_bind, Int.abs_eq_natAbs]
  refine Value.ofInt_of_fits ?_
  have hle := n.le_toInt
  have hlt := n.toInt_lt
  have hmin : n.toInt ≠ -2 ^ 63 := fun h => hn (Int64.toInt_inj.1 h)
  constructor <;> omega

theorem abs_minValue : abs (.int Int64.minValue) = .error (.type .overflow) := by
  rw [abs, Value.asInt, ok_bind, Value.ofInt_of_not_fits (by decide)]

end Builtin

namespace Library

theorem not_fits_pow {b : Int} {n : Nat} (hb : 2 ≤ b.natAbs) (hn : 64 ≤ n) : ¬ Fits (b ^ n) := by
  have hp : 2 ^ 64 ≤ (b ^ n).natAbs := by
    calc 2 ^ 64 ≤ 2 ^ n := Nat.pow_le_pow_right (by decide) hn
      _ ≤ b.natAbs ^ n := Nat.pow_le_pow_left hb n
      _ = (b ^ n).natAbs := (Int.natAbs_pow b n).symm
  rintro ⟨hl, hr⟩
  omega

/-- The exponent can be cut down: either the power stays the same, or both are out of range. -/
theorem pow_cut (b : Int) (n : Nat) :
    b ^ (if n < 64 then n else 64 + n % 2) = b ^ n ∨
      ¬ Fits (b ^ (if n < 64 then n else 64 + n % 2)) ∧ ¬ Fits (b ^ n) := by
  split
  · exact .inl rfl
  next hn =>
    have hn : 64 ≤ n := by omega
    by_cases hb : 2 ≤ b.natAbs
    · exact .inr ⟨not_fits_pow hb (Nat.le_add_right 64 _), not_fits_pow hb hn⟩
    · obtain rfl | rfl | rfl : b = 0 ∨ b = 1 ∨ b = -1 := by omega
      · exact .inl (by rw [zero_pow (by omega), zero_pow (by omega)])
      · exact .inl (by rw [one_pow, one_pow])
      · refine .inl ?_
        rw [pow_add, ← neg_one_pow_eq_pow_mod_two, Even.neg_one_pow (by decide), one_mul]

theorem pow_eq_ofInt {b e : Int64} (he : 0 ≤ e) (hlt : e.toInt < 2 ^ 32) :
    pow (.int b) (.int e) = Value.ofInt (b.toInt ^ e.toInt.toNat) := by
  have he : 0 ≤ e.toInt := Int64.le_iff_toInt_le.1 he
  have hp : pow (.int b) (.int e) =
      Value.ofInt (b.toInt ^ (if e.toInt.toNat < 64 then e.toInt.toNat
        else 64 + e.toInt.toNat % 2)) := by
    rw [pow, Value.asInt, Value.asInt, ok_bind, ok_bind, if_neg (by omega)]
    rfl
  rw [hp]
  rcases pow_cut b.toInt e.toInt.toNat with h | ⟨hc, h⟩
  · rw [h]
  · rw [Value.ofInt_of_not_fits hc, Value.ofInt_of_not_fits h]

end Library

namespace Evaluator
variable {d : Document} {r : Reach} {f : Native} {name : String} {args : List Value}

theorem call_reach (d : Document) (n : Nat) : (reach d (n + 1)).call = call d (some (reach d n)) :=
  rfl

theorem call_builtin (hf : Builtin.find? name = some f) (ha : f.type.accepts args.length) :
    call d (some r) (.builtin name) args = f.run r.call args := by
  rw [call, hf]
  exact if_pos ha

theorem call_library (hf : Library.find? name = some (.function f))
    (ha : f.type.accepts args.length) :
    call d (some r) (.library name) args = f.run r.call args := by
  rw [call, hf]
  exact if_pos ha

theorem call_sum (v : Value) : call d (some r) (.builtin "sum") [v] = Builtin.sum v :=
  call_builtin (f := .ofUnary "sum" .any Builtin.sum) rfl rfl

theorem call_max (vs : List Value) :
    call d (some r) (.builtin "max") vs = (Builtin.picker "max" .gt).run r.call vs :=
  call_builtin rfl (decide_eq_true vs.length.zero_le)

theorem call_min (vs : List Value) :
    call d (some r) (.builtin "min") vs = (Builtin.picker "min" .lt).run r.call vs :=
  call_builtin rfl (decide_eq_true vs.length.zero_le)

theorem call_range (v w : Value) :
    call d (some r) (.builtin "range") [v, w] = Builtin.range v w :=
  call_builtin (f := .ofBinary "range" .int .int fun _ => Builtin.range) rfl rfl

theorem call_abs (v : Value) : call d (some r) (.builtin "abs") [v] = Builtin.abs v :=
  call_builtin (f := .ofUnary "abs" .int Builtin.abs) rfl rfl

theorem call_pow (v w : Value) :
    call d (some r) (.library "math.pow") [v, w] = Library.pow v w :=
  call_library (f := .ofBinary "math.pow" .int .int fun _ => Library.pow) rfl rfl

/-- The sum of integers is exact if those of the first ones are in range and fails otherwise; the
largest and the smallest of some integers do not depend on their order; a range has all integers
that it should, if they are not too many; powers and absolute values are exact or out of range. -/
theorem call_exact (d : Document) (r : Reach) :
    (∀ ns : List Int64,
      ((∀ part, part <+: ns → Fits (part.map Int64.toInt).sum) →
        ∃ n : Int64, n.toInt = (ns.map Int64.toInt).sum ∧
          call d (some r) (.builtin "sum") [.list (ns.map .int)] = .ok (.int n)) ∧
      ((∃ part, part <+: ns ∧ ¬ Fits (part.map Int64.toInt).sum) →
        call d (some r) (.builtin "sum") [.list (ns.map .int)] = .error (.type .overflow))) ∧
    (∀ ns : List Int64, ns ≠ [] →
      (∃ m ∈ ns, (∀ n ∈ ns, n ≤ m) ∧ ∀ ms : List Int64, ms.Perm ns →
        call d (some r) (.builtin "max") (ms.map .int) = .ok (.int m)) ∧
      ∃ m ∈ ns, (∀ n ∈ ns, m ≤ n) ∧ ∀ ms : List Int64, ms.Perm ns →
        call d (some r) (.builtin "min") (ms.map .int) = .ok (.int m)) ∧
    (∀ a b : Int64,
      (b.toInt - a.toInt ≤ 2 ^ 20 →
        ∃ ns : List Int64, ns.Pairwise (· < ·) ∧ (∀ n, n ∈ ns ↔ a ≤ n ∧ n < b) ∧
          call d (some r) (.builtin "range") [.int a, .int b] = .ok (.list (ns.map .int))) ∧
      (2 ^ 20 < b.toInt - a.toInt →
        call d (some r) (.builtin "range") [.int a, .int b] =
          .error (.tooLarge "range" (2 ^ 20)))) ∧
    (∀ b e : Int64, 0 ≤ e → e.toInt < 2 ^ 32 →
      (Fits (b.toInt ^ e.toInt.toNat) →
        ∃ n : Int64, n.toInt = b.toInt ^ e.toInt.toNat ∧
          call d (some r) (.library "math.pow") [.int b, .int e] = .ok (.int n)) ∧
      (¬ Fits (b.toInt ^ e.toInt.toNat) →
        call d (some r) (.library "math.pow") [.int b, .int e] = .error (.type .overflow))) ∧
    ∀ n : Int64,
      (n ≠ Int64.minValue →
        ∃ m : Int64, m.toInt = |n.toInt| ∧
          call d (some r) (.builtin "abs") [.int n] = .ok (.int m)) ∧
      (n = Int64.minValue →
        call d (some r) (.builtin "abs") [.int n] = .error (.type .overflow)) := by
  simp only [call_sum, call_max, call_min, call_range, call_abs, call_pow]
  refine ⟨fun ns => ⟨fun h => ?_, ?_⟩, fun ns hn => ⟨?_, ?_⟩,
    fun a b => ⟨Builtin.range_of_le, Builtin.range_of_lt⟩, fun b e he hlt => ?_,
    fun n => ⟨Builtin.abs_int, ?_⟩⟩
  · exact Builtin.sum_of_totals (by simpa [Builtin.Totals] using h)
  · rintro ⟨part, hp, hf⟩
    exact Builtin.sum_of_not_totals fun h => hf (by simpa using h part hp)
  · obtain ⟨m, hm, hb, hv⟩ := Builtin.picker_int "max" (by decide : Ordering.gt ≠ .eq) hn
    exact ⟨m, hm, fun n hn => Builtin.behind_gt.1 (hb n hn), fun ms => hv ms r.call⟩
  · obtain ⟨m, hm, hb, hv⟩ := Builtin.picker_int "min" (by decide : Ordering.lt ≠ .eq) hn
    exact ⟨m, hm, fun n hn => Builtin.behind_lt.1 (hb n hn), fun ms => hv ms r.call⟩
  · rw [Library.pow_eq_ofInt he hlt]
    exact ⟨Value.ofInt_of_fits, Value.ofInt_of_not_fits⟩
  · rintro rfl
    exact Builtin.abs_minValue

/-- At the ends of the range. -/
theorem call_exact_extreme :
    call ⟨[]⟩ (some (reach ⟨[]⟩ 0)) (.builtin "sum")
        [.list [.int Int64.maxValue, .int 1, .int (-1)]] =
      .error (.type .overflow) ∧
    (∃ m ∈ [3, Int64.minValue],
      call ⟨[]⟩ (some (reach ⟨[]⟩ 0)) (.builtin "min") [.int Int64.minValue, .int 3] =
        .ok (.int m)) ∧
    call ⟨[]⟩ (some (reach ⟨[]⟩ 0)) (.builtin "range") [.int Int64.minValue, .int Int64.maxValue] =
      .error (.tooLarge "range" (2 ^ 20)) ∧
    (∃ n : Int64, n.toInt = (-2) ^ 63 ∧
      call ⟨[]⟩ (some (reach ⟨[]⟩ 0)) (.library "math.pow") [.int (-2), .int 63] = .ok (.int n)) ∧
    ∃ n : Int64, n.toInt = |Int64.maxValue.toInt| ∧
      call ⟨[]⟩ (some (reach ⟨[]⟩ 0)) (.builtin "abs") [.int Int64.maxValue] = .ok (.int n) := by
  obtain ⟨hsum, hpick, hrange, hpow, habs⟩ := call_exact ⟨[]⟩ (reach ⟨[]⟩ 0)
  refine ⟨(hsum [Int64.maxValue, 1, -1]).2 ⟨[Int64.maxValue, 1], by decide, by decide⟩, ?_,
    (hrange Int64.minValue Int64.maxValue).2 (by decide), (hpow (-2) 63 (by decide) (by decide)).1
      (by decide), (habs Int64.maxValue).1 (by decide)⟩
  obtain ⟨m, hm, -, hv⟩ := (hpick [3, Int64.minValue] (by decide)).2
  exact ⟨m, hm, hv [Int64.minValue, 3] (.swap _ _ _)⟩

end Evaluator

end Tether
