import Tether.Proofs.Eval.Counter
import Tether.Proofs.Native.Numbers

/-! The builtins that test the items of a list, with the counter. What a test gives does not depend
on the tests before it, as each of them leaves the counter where it was; so the loops that stop
early agree with the one that goes through the whole list (`Counted.all_any_of_filter`). -/
namespace Tether

namespace Builtin
variable {test : Value → Result Bool} {kept vs ws : List Value}

def meets (test : Value → Result Bool) (v : Value) : Bool :=
  match test v with
  | .ok t => t
  | .error _ => false

theorem meets_of_ok {v : Value} {t : Bool} (h : test v = .ok t) : meets test v = t := by
  rw [meets, h]

theorem of_keep (h : keep test kept vs = .ok ws) :
    (∀ v ∈ vs, test v = .ok (meets test v)) ∧ ws = kept.reverse ++ vs.filter (meets test) := by
  induction vs generalizing kept with
  | nil =>
    cases h
    simp
  | cons v vs ih =>
    obtain ⟨t, ht, h⟩ := bind_eq_ok.1 h
    have hm := meets_of_ok ht
    cases t with
    | false | true =>
      obtain ⟨hvs, hw⟩ := ih h
      exact ⟨List.forall_mem_cons.2 ⟨by rw [hm, ht], hvs⟩, by simpa [hm] using hw⟩

variable {t : Value → Bool}

theorem allItems_of_ok (h : ∀ v ∈ vs, test v = .ok (t v)) : allItems test vs = .ok (vs.all t) := by
  induction vs with
  | nil => rfl
  | cons v vs ih =>
    obtain ⟨hv, hvs⟩ := List.forall_mem_cons.1 h
    rw [allItems, hv, ok_bind, ih hvs]
    cases ht : t v <;> simp [ht]

theorem anyItem_of_ok (h : ∀ v ∈ vs, test v = .ok (t v)) : anyItem test vs = .ok (vs.any t) := by
  induction vs with
  | nil => rfl
  | cons v vs ih =>
    obtain ⟨hv, hvs⟩ := List.forall_mem_cons.1 h
    rw [anyItem, hv, ok_bind, ih hvs]
    cases ht : t v <;> simp [ht]

variable {call : Call} {f : Func}

theorem holds_eq_ok {v : Value} {t : Bool} :
    holds call f v = .ok t ↔ call f [v] = .ok (.bool t) := by
  rw [holds, bind_eq_ok]
  constructor
  · rintro ⟨w, hw, ht⟩
    cases w with
    | bool u =>
      cases ht
      exact hw
    | _ => cases ht
  · exact fun h => ⟨_, h, rfl⟩

theorem of_filter {y : Value} (h : filter call (.list vs) (.func f) = .ok y) :
    ∃ t : Value → Bool, (∀ v ∈ vs, call f [v] = .ok (.bool (t v))) ∧ y = .list (vs.filter t) := by
  rw [filter, Value.asList, Value.asFunc, ok_bind, ok_bind] at h
  obtain ⟨ws, hk, h⟩ := bind_eq_ok.1 h
  cases h
  obtain ⟨ht, rfl⟩ := of_keep hk
  exact ⟨meets (holds call f), fun v hv => holds_eq_ok.1 (ht v hv), rfl⟩

variable (h : ∀ v ∈ vs, call f [v] = .ok (.bool (t v)))
include h

theorem all_of_ok : all call (.list vs) (.func f) = .ok (.bool (vs.all t)) := by
  rw [all, Value.asList, Value.asFunc, ok_bind, ok_bind,
    allItems_of_ok fun v hv => holds_eq_ok.2 (h v hv)]
  rfl

theorem any_of_ok : any call (.list vs) (.func f) = .ok (.bool (vs.any t)) := by
  rw [any, Value.asList, Value.asFunc, ok_bind, ok_bind,
    anyItem_of_ok fun v hv => holds_eq_ok.2 (h v hv)]
  rfl

end Builtin

namespace Evaluator
variable {d : Document} {r : Reach}

theorem call_filter (v w : Value) :
    call d (some r) (.builtin "filter") [v, w] = Builtin.filter r.call v w :=
  call_builtin (f := .ofBinary "filter" .any .func Builtin.filter) rfl rfl

theorem call_all (v w : Value) :
    call d (some r) (.builtin "all") [v, w] = Builtin.all r.call v w :=
  call_builtin (f := .ofBinary "all" .any .func Builtin.all) rfl rfl

theorem call_any (v w : Value) :
    call d (some r) (.builtin "any") [v, w] = Builtin.any r.call v w :=
  call_builtin (f := .ofBinary "any" .any .func Builtin.any) rfl rfl

end Evaluator

namespace Counted
open Evaluator (reach maxDepth)

/-- With enough fuel, a call that is made with the counter at `depth` has the outcome `x` and leaves
the counter at `last`. -/
def Returns (d : Document) (f : Func) (args : List Value) (depth : Nat) (x : Result Value)
    (last : Nat) : Prop :=
  ∃ enough, ∀ fuel, enough ≤ fuel →
    ((machine d fuel).call f args).run.run depth = some (x, last)

variable {d : Document} {f : Func} {args : List Value} {depth last : Nat} {x : Result Value}

/-- A call has one outcome, that of a call with the levels that are left, and one end. -/
theorem returns_iff (h : depth ≤ maxDepth) :
    Returns d f args depth x last ↔
      x = (reach d (maxDepth - depth)).call f args ∧ last = depth :=
  eventually_iff fun _ hf => (serves_machine d (Nat.add_sub_cancel' h) hf).call f args

theorem lt_of_returns_filter {v w y : Value}
    (h : Returns d (.builtin "filter") [v, w] depth (.ok y) last) : depth < maxDepth := by
  by_contra hd
  obtain ⟨enough, hx⟩ := h
  have hrun : Keeps depth ((machine d (enough + 1)).call (.builtin "filter") [v, w])
      (.error (.recursionLimit "filter")) := keeps_within_limit (not_lt.1 hd) "filter"
  cases hrun.symm.trans (hx (enough + 1) (Nat.le_succ enough))

/-- If the items of a list can be filtered with a function, it gives a truth value for each of them,
one level deeper, and those are kept, in order, for which it is true; all meet it exactly if no item
is left out, and any does exactly if one is kept. -/
theorem all_any_of_filter {vs : List Value} {y : Value}
    (h : Returns d (.builtin "filter") [.list vs, .func f] depth (.ok y) last) :
    last = depth ∧ ∃ (ys : List Value) (t : Value → Bool), y = .list ys ∧ ys = vs.filter t ∧
      (∀ v ∈ vs, Returns d f [v] (depth + 1) (.ok (.bool (t v))) (depth + 1)) ∧
      Returns d (.builtin "all") [.list vs, .func f] depth
        (.ok (.bool (ys.length = vs.length))) depth ∧
      Returns d (.builtin "any") [.list vs, .func f] depth (.ok (.bool !ys.isEmpty)) depth := by
  have hlt := lt_of_returns_filter h
  obtain ⟨n, hn⟩ : ∃ n, maxDepth - depth = n + 1 := ⟨maxDepth - (depth + 1), by omega⟩
  have hn' : maxDepth - (depth + 1) = n := by omega
  rw [returns_iff hlt.le, hn, Evaluator.call_reach, Evaluator.call_filter] at h
  obtain ⟨hy, hlast⟩ := h
  obtain ⟨t, ht, rfl⟩ := Builtin.of_filter hy.symm
  refine ⟨hlast, vs.filter t, t, rfl, rfl, fun v hv => ?_, ?_, ?_⟩
  · rw [returns_iff hlt, hn']
    exact ⟨(ht v hv).symm, rfl⟩
  · rw [returns_iff hlt.le, hn, Evaluator.call_reach, Evaluator.call_all, Builtin.all_of_ok ht]
    have ha : vs.all t = decide ((vs.filter t).length = vs.length) := by
      rw [Bool.eq_iff_iff, decide_eq_true_iff, List.length_filter_eq_length_iff, List.all_eq_true]
    exact ⟨by rw [ha], rfl⟩
  · rw [returns_iff hlt.le, hn, Evaluator.call_reach, Evaluator.call_any, Builtin.any_of_ok ht]
    have ha : vs.any t = !(vs.filter t).isEmpty := by
      rw [Bool.eq_iff_iff, List.any_eq_true, Bool.not_eq_true',
        List.isEmpty_eq_false_iff_exists_mem]
      simp only [List.mem_filter]
    exact ⟨by rw [ha], rfl⟩

/-- A function of the document, at the last depth from which a call of it can be reached. -/
theorem all_any_of_filter_deep : ∃ d, Document.parse "odd n = n % 2 == 1" = .ok d ∧
    Returns d (.builtin "filter") [.list [.int 1, .int 2, .int 3], .func (.binding ["odd"])] 126
      (.ok (.list [.int 1, .int 3])) 126 ∧
    Returns d (.builtin "all") [.list [.int 1, .int 2, .int 3], .func (.binding ["odd"])] 126
      (.ok (.bool false)) 126 ∧
    Returns d (.builtin "any") [.list [.int 1, .int 2, .int 3], .func (.binding ["odd"])] 126
      (.ok (.bool true)) 126 := by
  obtain ⟨d, hd, hv⟩ : ∃ d, Document.parse "odd n = n % 2 == 1" = .ok d ∧
      (reach d 2).call (.builtin "filter")
        [.list [.int 1, .int 2, .int 3], .func (.binding ["odd"])] =
          .ok (.list [.int 1, .int 3]) :=
    ⟨⟨[.leaf "odd" [⟨"n", false⟩] ⟨"n % 2 == 1",
      .binary .eq (.binary .rem (.path ["n"]) (.int 2)) (.int 1)⟩]⟩, by cbv, by rfl⟩
  have hr : Returns d (.builtin "filter")
      [.list [.int 1, .int 2, .int 3], .func (.binding ["odd"])] 126
      (.ok (.list [.int 1, .int 3])) 126 :=
    (returns_iff (show 126 ≤ maxDepth by decide)).2 ⟨hv.symm, rfl⟩
  obtain ⟨-, ys, t, hy, -, -, hall, hany⟩ := all_any_of_filter hr
  cases hy
  exact ⟨d, hd, hr, hall, hany⟩

end Counted

end Tether
