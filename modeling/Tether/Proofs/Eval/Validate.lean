import Tether.Proofs.Eval.Counter
import Tether.Proofs.Eval.Paths
import Tether.Proofs.Expr.Dotted
import Tether.Proofs.Text.Split
import Mathlib

/-! Validation finds the first value that cannot be computed on its own, and that value is also what
its path evaluates to: `validate_agrees`. -/
namespace Tether.Document
open Evaluator
open Text (dotted)

variable {d : Document}

/-- The value of the binding a path leads to, with all levels of nesting. -/
def valueAt (d : Document) (path : List String) : Result Value := (reach d maxDepth).valueOf path

def checked (path : List String) : Result Value → Except ValidationError Unit
  | .ok _ => .ok ()
  | .error e => .error ⟨dotted path, e⟩

theorem checked_eq_ok {path : List String} {x : Result Value} :
    checked path x = .ok () ↔ ∃ v, x = .ok v := by
  cases x <;> simp [checked]

theorem checked_eq_error {path : List String} {x : Result Value} {err : ValidationError} :
    checked path x = .error err ↔ err.path = dotted path ∧ x = .error err.error := by
  obtain ⟨p, e⟩ := err
  cases x <;> simp [checked, eq_comm]

theorem validate_eq_forM (d : Document) :
    d.validate = (valuePathsIn [] d.bindings).forM fun path => checked path (d.valueAt path) := rfl

theorem validate_eq_ok (h : ValidBindings d.bindings) :
    d.validate = .ok () ↔ ∀ path, IsValue d.bindings path → ∃ v, d.valueAt path = .ok v := by
  rw [validate_eq_forM, forM_eq_ok]
  simp only [checked_eq_ok, mem_valuePathsIn h]

theorem validate_eq_error (h : ValidBindings d.bindings) {err : ValidationError} :
    d.validate = .error err ↔ ∃ path, IsValue d.bindings path ∧ err.path = dotted path ∧
      d.valueAt path = .error err.error ∧
      ∀ q, IsValue d.bindings q → Earlier d.bindings q path → ∃ v, d.valueAt q = .ok v := by
  rw [validate_eq_forM,
    forM_eq_error (fun _ _ hpq => hpq.asymm) (pairwise_valuePathsIn h)]
  simp only [checked_eq_ok, checked_eq_error, mem_valuePathsIn h, and_assoc]

/-- Outside all blocks and without parameters, a path that leads to a binding is its value. -/
theorem eval_path {r : Reach} {name : String} {names : List String} {b : Binding}
    (hb : d.resolve? (name :: names) = some b) :
    eval d r ⟨[], []⟩ (.path (name :: names)) = r.valueOf (name :: names) := by
  have hr : Tether.resolve? d.bindings (name :: names) = some b := hb
  rw [resolve?_cons] at hr
  obtain ⟨c, hc, -⟩ := Option.bind_eq_some_iff.1 hr
  have hh : d.home? [] name = some [] := by simp [home?, entriesAt, hc]
  simp [eval, resolve, hh, hb]

theorem trimmed_dotted {name : String} {names : List String}
    (hn : ∀ m ∈ name :: names, isName m.toList) : Text.Trimmed (dotted (name :: names)).toList := by
  refine Text.trimmed_of_forall fun c hc => ?_
  rcases Text.mem_dotted hc with rfl | ⟨m, hm, hc⟩
  · decide
  · exact not_white_of_isName (hn m hm) c hc

theorem evaluate_dotted (h : ValidBindings d.bindings) {path : List String} {b : Binding}
    (hb : d.resolve? path = some b) (ht : path.head? ≠ some "true")
    (hf : path.head? ≠ some "false") : d.evaluate (dotted path) = d.valueAt path := by
  cases path with
  | nil => cases hb
  | cons name names =>
    have hn := isName_of_resolve? h hb
    have hp := Expr.parse_dotted hn (by simpa using ht) (by simpa using hf)
    rw [evaluate, Text.trim_eq_self (trimmed_dotted hn), hp]
    exact eval_path hb

/-- Validation succeeds when all values can be computed, and else tells the first one in the order
of the declarations that cannot, with its error. What a value's path evaluates to is the value, or
its error. -/
theorem validate_agrees {src : String} (h : parse src = .ok d) :
    (d.validate = .ok () ↔ ∀ path, IsValue d.bindings path → ∃ v, d.valueAt path = .ok v) ∧
    (∀ err : ValidationError, d.validate = .error err ↔
      ∃ path, IsValue d.bindings path ∧ err.path = dotted path ∧
        d.valueAt path = .error err.error ∧
        ∀ q, IsValue d.bindings q → Earlier d.bindings q path → ∃ v, d.valueAt q = .ok v) ∧
    ∀ path, IsValue d.bindings path → path.head? ≠ some "true" → path.head? ≠ some "false" →
      d.evaluate (dotted path) = d.valueAt path := by
  have hv := valid_of_parse h
  refine ⟨validate_eq_ok hv, fun err => validate_eq_error hv, fun path hp ht hf => ?_⟩
  obtain ⟨name, source, hb⟩ := hp
  exact evaluate_dotted hv hb ht hf

/-- A value in a block, which is taken from one outside that is declared later and cannot be
computed. -/
theorem validate_agrees_nested : ∃ d, parse "b \x7b\n x = y\n\x7d\ny = 1 / 0\nf a = a" = .ok d ∧
    IsValue d.bindings ["b", "x"] ∧ d.evaluate "b.x" = .error .divisionByZero ∧
    d.validate ≠ .ok () := by
  obtain ⟨d, h, hb, hx⟩ : ∃ d, parse "b \x7b\n x = y\n\x7d\ny = 1 / 0\nf a = a" = .ok d ∧
      IsValue d.bindings ["b", "x"] ∧ d.valueAt ["b", "x"] = .error .divisionByZero :=
    ⟨⟨[.block "b" [.leaf "x" [] ⟨"y", .path ["y"]⟩],
      .leaf "y" [] ⟨"1 / 0", .binary .div (.int 1) (.int 0)⟩,
      .leaf "f" [⟨"a", false⟩] ⟨"a", .path ["a"]⟩]⟩, by cbv, ⟨_, _, rfl⟩, by rfl⟩
  have ha := validate_agrees h
  refine ⟨d, h, hb, ?_, fun hok => ?_⟩
  · exact (ha.2.2 ["b", "x"] hb (by decide) (by decide)).trans hx
  · obtain ⟨v, hv⟩ := ha.1.1 hok ["b", "x"] hb
    cases hx.symm.trans hv

end Tether.Document

namespace Tether.Visiting
open Evaluator
open Text (dotted)

/-- Started at `w`, the validation comes to `y` with the counter as it was, and with the path as it
was unless there is an error. -/
def Visits (w : Visit) (x : Visiting Unit) (y : Except ValidationError Unit) : Prop :=
  ∃ path, x.run.run w = some (y, { w with path := path }) ∧ (y = .ok () → path = w.path)

variable {w : Visit} {x x' : Visiting Unit} {y y' : Except ValidationError Unit}

theorem Visits.bind (h : Visits w x y) (h' : Visits w x' y') :
    Visits w (do x; x') (do y; y') := by
  obtain ⟨path, hx, hp⟩ := h
  rw [Visits, ExceptT.run_bind, StateT.run_bind, hx, Option.bind_eq_bind, Option.bind_some]
  cases y with
  | ok =>
    rw [hp rfl]
    exact h'
  | error e => exact ⟨path, rfl, nofun⟩

theorem visits_nothing (w : Visit) : Visits w (pure ()) (.ok ()) := ⟨w.path, rfl, fun _ => rfl⟩

/-- A name is on the path for as long as its binding is validated. -/
theorem Visits.named {name : String} (h : Visits { w with path := w.path ++ [name] } x y) :
    Visits w (do push name; x; pop) y := by
  obtain ⟨path, hx, hp⟩ := h
  have hr : (do push name; x; pop : Visiting Unit).run.run w =
      ((do x; pop : Visiting Unit).run.run { w with path := w.path ++ [name] }) := rfl
  rw [Visits, hr, ExceptT.run_bind, StateT.run_bind, hx, Option.bind_eq_bind, Option.bind_some]
  cases y with
  | ok =>
    rw [hp rfl]
    have hd : (w.path ++ [name]).dropLast = w.path := List.dropLast_concat
    exact ⟨w.path, congrArg (fun q => some (Except.ok (), (⟨w.depth, q⟩ : Visit))) hd, fun _ => rfl⟩
  | error e => exact ⟨path, rfl, nofun⟩

section Tree
variable {m : Machine} {r : Reach}

theorem visits_check (hs : Counted.Serves w.depth m r) :
    Visits w (check m) (Document.checked w.path (r.valueOf w.path)) := by
  refine ⟨w.path, ?_, fun _ => rfl⟩
  have hv : (m.valueOf w.path).run.run w.depth = some (r.valueOf w.path, w.depth) :=
    hs.valueOf w.path
  change ((m.valueOf w.path).run.run w.depth).map _ = _
  rw [hv]
  cases r.valueOf w.path <;> rfl

mutual

theorem visits_binding (w : Visit) (hs : Counted.Serves w.depth m r) : (b : Binding) →
    Visits w (binding m b)
      ((b.valuePaths w.path).forM fun path => Document.checked path (r.valueOf path))
  | .leaf n [] source => by
    rw [Binding.valuePaths, List.forM, List.forM, bind_pure_unit]
    exact .named (visits_check (w := ⟨w.depth, w.path ++ [n]⟩) hs)
  | .leaf n (p :: ps) source => .named (visits_nothing _)
  | .block n es => .named (visits_block ⟨w.depth, w.path ++ [n]⟩ hs es)

theorem visits_block (w : Visit) (hs : Counted.Serves w.depth m r) : (bs : List Binding) →
    Visits w (block m bs)
      ((valuePathsIn w.path bs).forM fun path => Document.checked path (r.valueOf path))
  | [] => visits_nothing w
  | b :: bs => by
    have hb := (visits_binding w hs b).bind (visits_block w hs bs)
    rw [valuePathsIn, forM_append]
    exact hb

end

end Tree

/-- With fuel for all levels, validation with one counter and one path comes to what values computed
each for itself come to, and no level is left entered. -/
theorem run_document (d : Document) {fuel : Nat} (hf : maxDepth < fuel) :
    ∃ path, (document d fuel).run.run ⟨0, []⟩ = some (d.validate, ⟨0, path⟩) ∧
      (d.validate = .ok () → path = []) :=
  visits_block ⟨0, []⟩ (Counted.serves_machine d (Nat.zero_add maxDepth) hf) d.bindings

end Tether.Visiting
