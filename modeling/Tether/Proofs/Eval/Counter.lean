import Tether.Eval.Counter
import Tether.Proofs.Eval.Comparison
import Tether.Document.Reader

/-! Evaluation with a counter always ends, with the counter as it was, and it gives what evaluation
with the levels that are left gives (`ends_iff`); the outcome is the one that enough fuel gives
(`Ends`). A lower start changes nothing but the recursion limit (`ends_of_deeper`). -/
namespace Tether
open Text (dotted)

namespace Counted
variable {α β : Type}

/-- Started with the counter at `depth`, the computation has the outcome `y` and leaves the counter
there. -/
def Keeps (depth : Nat) (x : Counted α) (y : Result α) : Prop := x.run.run depth = some (y, depth)

section Keeps
variable {depth : Nat} {x : Counted α} {y : Result α}

theorem run_within (name : String) (x : Counted α) (depth : Nat) :
    (within name x).run.run depth = (if Evaluator.maxDepth ≤ depth then
      (throw (.recursionLimit name) : Counted α)
      else do set (depth + 1); leaving x).run.run depth := rfl

theorem keeps_within_limit (h : Evaluator.maxDepth ≤ depth) (name : String) :
    Keeps depth (within name x) (.error (.recursionLimit name)) := by
  rw [Keeps, run_within, if_pos h]
  rfl

theorem Keeps.within (h : Keeps (depth + 1) x y) (hd : depth < Evaluator.maxDepth) (name : String) :
    Keeps depth (within name x) y := by
  have hx : x.run.run (depth + 1) = some (y, depth + 1) := h
  have hl : (ExceptT.lift x.run : Counted (Result α)).run.run (depth + 1) =
      some (.ok y, depth + 1) := by simp [hx]
  have hrun : (leaving x).run.run (depth + 1) = some (y, depth) := by
    rw [leaving, ExceptT.run_bind, StateT.run_bind, hl]
    cases y with
    | ok a => rfl
    | error e => rfl
  rw [Keeps, run_within, if_neg (Nat.not_le.2 hd)]
  exact hrun

theorem keeps_ok (a : α) : Keeps depth (pure a : Counted α) (.ok a) := rfl

theorem keeps_error (e : EvalError) : Keeps depth (throw e : Counted α) (.error e) := rfl

theorem keeps_lift (y : Result α) : Keeps depth (liftExcept y) y := by
  cases y with
  | ok a => rfl
  | error e => rfl

theorem Keeps.bind {f : α → Counted β} {g : α → Result β} (h : Keeps depth x y)
    (hf : ∀ a, Keeps depth (f a) (g a)) : Keeps depth (x >>= f) (y >>= g) := by
  have hx : x.run.run depth = some (y, depth) := h
  rw [Keeps, ExceptT.run_bind, StateT.run_bind, hx, Option.bind_eq_bind, Option.bind_some]
  cases y with
  | ok a => exact hf a
  | error e => rfl

theorem keeps_mapM {γ : Type} {f : γ → Counted α} {g : γ → Result α} {cs : List γ}
    (h : ∀ c, Keeps depth (f c) (g c)) : Keeps depth (cs.mapM f) (cs.mapM g) := by
  induction cs with
  | nil => exact keeps_ok []
  | cons c cs ih =>
    rw [List.mapM_cons, List.mapM_cons]
    exact (h c).bind fun a => ih.bind fun as => keeps_ok (a :: as)

theorem Keeps.test {x : Counted Value} {y : Result Value} {f : Bool → Counted α}
    {g : Bool → Result α} (h : Keeps depth x y) (hf : ∀ t, Keeps depth (f t) (g t)) :
    Keeps depth (x >>= fun v => liftExcept v.toBool >>= f) (y >>= fun v => v.toBool >>= g) :=
  h.bind fun v => (keeps_lift v.toBool).bind hf

end Keeps

/-- With the counter at `depth`, the machine does what can be done with some levels left. -/
structure Serves (depth : Nat) (m : Machine) (r : Reach) : Prop where
  valueOf : ∀ path, Keeps depth (m.valueOf path) (r.valueOf path)
  call : ∀ f args, Keeps depth (m.call f args) (r.call f args)

section Expressions
variable {depth : Nat} {d : Document} {m : Machine} {r : Reach}

theorem keeps_resolve (h : Serves depth m r) (s : Scope) (path : List String) :
    Keeps depth (resolve d m s path) (Evaluator.resolve d r s path) := by
  cases path with
  | nil => exact keeps_error _
  | cons n ns =>
    unfold resolve Evaluator.resolve
    dsimp only
    cases s.locals.lookup n with
    | some v => exact keeps_lift _
    | none =>
      dsimp only
      cases d.home? s.block n with
      | none => exact keeps_lift _
      | some p =>
        dsimp only
        split
        · exact h.valueOf _
        · exact keeps_error _

mutual

theorem keeps_eval (h : Serves depth m r) (s : Scope) :
    (e : Expr) → Keeps depth (eval d m s e) (Evaluator.eval d r s e)
  | .int n => keeps_ok _
  | .float x => keeps_ok _
  | .str t => keeps_ok _
  | .bool b => keeps_ok _
  | .list es => (keeps_evalList h s es).bind fun vs => keeps_ok _
  | .path names => keeps_resolve h s names
  | .call callee args => by
    have hargs := keeps_evalList h s args
    refine (keeps_eval h s callee).bind fun v => ?_
    cases v with
    | func f => exact hargs.bind fun vs => h.call f vs
    | _ => exact keeps_error _
  | .index target i => by
    have hi := keeps_eval h s i
    refine (keeps_eval h s target).bind fun v => ?_
    exact hi.bind fun w => keeps_lift _
  | .unary op e => by
    refine (keeps_eval h s e).bind fun v => ?_
    cases op with
    | neg | not => exact keeps_lift _
  | .binary op a b => by
    have ha := keeps_eval h s a
    have hb := keeps_eval h s b
    cases op with
    | and =>
      refine ha.test fun t => ?_
      cases t with
      | false => exact keeps_ok _
      | true => exact hb.test fun u => keeps_ok _
    | or =>
      refine ha.test fun t => ?_
      cases t with
      | false => exact hb.test fun u => keeps_ok _
      | true => exact keeps_ok _
    | _ => exact ha.bind fun v => hb.bind fun w => keeps_lift _
  | .cond test yes no => by
    have hyes := keeps_eval h s yes
    have hno := keeps_eval h s no
    refine (keeps_eval h s test).test fun t => ?_
    cases t with
    | false => exact hno
    | true => exact hyes

theorem keeps_evalList (h : Serves depth m r) (s : Scope) :
    (es : List Expr) → Keeps depth (evalList d m s es) (Evaluator.evalList d r s es)
  | [] => keeps_ok _
  | e :: es => by
    have hes := keeps_evalList h s es
    refine (keeps_eval h s e).bind fun v => ?_
    exact hes.bind fun vs => keeps_ok _

end

end Expressions

section Builtins
variable {depth : Nat} {m : Machine} {r : Reach}

theorem keeps_keep {f : Value → Counted Bool} {g : Value → Result Bool}
    (h : ∀ v, Keeps depth (f v) (g v)) (kept vs : List Value) :
    Keeps depth (do return (← List.filterAuxM f vs kept).reverse) (Builtin.keep g kept vs) := by
  induction vs generalizing kept with
  | nil => exact keeps_ok _
  | cons v vs ih =>
    rw [List.filterAuxM, bind_assoc]
    refine (h v).bind fun t => ?_
    cases t with
    | false => exact ih kept
    | true => exact ih (v :: kept)

theorem keeps_mapItems {f : Value → Counted Value} {g : Value → Result Value}
    (h : ∀ v, Keeps depth (f v) (g v)) (done vs : List Value) :
    Keeps depth (List.mapM.loop f vs done) (Builtin.mapItems g done vs) := by
  induction vs generalizing done with
  | nil => exact keeps_ok _
  | cons v vs ih => exact (h v).bind fun w => ih (w :: done)

theorem keeps_allItems {f : Value → Counted Bool} {g : Value → Result Bool}
    (h : ∀ v, Keeps depth (f v) (g v)) (vs : List Value) :
    Keeps depth (vs.allM f) (Builtin.allItems g vs) := by
  induction vs with
  | nil => exact keeps_ok _
  | cons v vs ih =>
    refine (h v).bind fun t => ?_
    cases t with
    | false => exact keeps_ok _
    | true => exact ih

theorem keeps_anyItem {f : Value → Counted Bool} {g : Value → Result Bool}
    (h : ∀ v, Keeps depth (f v) (g v)) (vs : List Value) :
    Keeps depth (vs.anyM f) (Builtin.anyItem g vs) := by
  induction vs with
  | nil => exact keeps_ok _
  | cons v vs ih =>
    refine (h v).bind fun t => ?_
    cases t with
    | false => exact ih
    | true => exact keeps_ok _

theorem keeps_reading {function : String} {v w : Value} {f : List Value → Func → Counted Value}
    {g : List Value → Func → Result Value} (h : ∀ vs u, Keeps depth (f vs u) (g vs u)) :
    Keeps depth
      (liftExcept (v.asList function) >>= fun vs => liftExcept (w.asFunc function) >>= f vs)
      (v.asList function >>= fun vs => w.asFunc function >>= g vs) := by
  refine (keeps_lift _).bind fun vs => ?_
  exact (keeps_lift _).bind fun u => h vs u

section Callers
variable (h : Serves depth m r)
include h

theorem keeps_holds (f : Func) (v : Value) :
    Keeps depth (holds m f v) (Builtin.holds r.call f v) :=
  (h.call f [v]).bind fun w => keeps_lift w.toBool

theorem keeps_filter (v w : Value) : Keeps depth (filter m v w) (Builtin.filter r.call v w) :=
  keeps_reading fun vs f => (keeps_keep (keeps_holds h f) [] vs).bind fun _ => keeps_ok _

theorem keeps_map (v w : Value) : Keeps depth (map m v w) (Builtin.map r.call v w) :=
  keeps_reading fun vs f => (keeps_mapItems (fun u => h.call f [u]) [] vs).bind fun _ => keeps_ok _

theorem keeps_all (v w : Value) : Keeps depth (all m v w) (Builtin.all r.call v w) :=
  keeps_reading fun vs f => (keeps_allItems (keeps_holds h f) vs).bind fun _ => keeps_ok _

theorem keeps_any (v w : Value) : Keeps depth (any m v w) (Builtin.any r.call v w) :=
  keeps_reading fun vs f => (keeps_anyItem (keeps_holds h f) vs).bind fun _ => keeps_ok _

end Callers

theorem keeps_of_caller {k l : ParamKind} {name : String}
    {g : Call → Value → Value → Result Value} {g' : Value → Value → Counted Value}
    (hc : caller? m name = some g') (hg : ∀ v w, Keeps depth (g' v w) (g r.call v w))
    (args : List Value) :
    Keeps depth (runBuiltin m (.ofBinary name k l g) args)
      ((Native.ofBinary name k l g).run r.call args) := by
  have hn : caller? m (Native.ofBinary name k l g).name = some g' := hc
  unfold runBuiltin
  rw [hn]
  match args with
  | [v, w] => exact hg v w
  | [] | [v] | v :: w :: u :: vs => exact keeps_lift _

theorem keeps_of_silent {f : Native} (hc : caller? m f.name = none)
    (hf : ∀ call call', f.run call = f.run call') (args : List Value) :
    Keeps depth (runBuiltin m f args) (f.run r.call args) := by
  unfold runBuiltin
  rw [hc, hf r.call noCalls]
  exact keeps_lift _

theorem keeps_runBuiltin (h : Serves depth m r) : ∀ f ∈ Builtin.table, ∀ args,
    Keeps depth (runBuiltin m f args) (f.run r.call args) := by
  simp only [Builtin.table, List.forall_mem_cons]
  refine ⟨?_, ?_, ?_, ?_, ?_, ?_, ?_, ?filter, ?map, ?all, ?any, ?_, ?_, ?_, ?_, ?_, ?_, ?_,
    by simp⟩
  case filter => exact keeps_of_caller rfl (keeps_filter h)
  case map => exact keeps_of_caller rfl (keeps_map h)
  case all => exact keeps_of_caller rfl (keeps_all h)
  case any => exact keeps_of_caller rfl (keeps_any h)
  all_goals exact keeps_of_silent rfl fun _ _ => rfl

theorem run_noCalls_of_find? {path : String} {f : Native}
    (hf : Library.find? path = some (.function f)) (call : Call) : f.run call = f.run noCalls := by
  have ht : ∀ p ∈ Entry.functions Library.tree, p.2.run call = p.2.run noCalls := by
    simp only [Entry.functions, Library.tree, Entry.functionsIn, Entry.functionsOf,
      List.append_nil, List.cons_append, List.nil_append, List.forall_mem_cons]
    exact ⟨rfl, rfl, rfl, rfl, rfl, rfl, rfl, rfl, rfl, rfl, rfl, by simp⟩
  exact ht (path, f) (Library.mem_functions hf)

end Builtins

/-- The counter is at the limit where no levels are left, and else the machine serves one deeper. -/
inductive ServesBelow (depth : Nat) (m : Machine) : Option Reach → Prop
  | limit (h : depth = Evaluator.maxDepth) : ServesBelow depth m none
  | deeper {r : Reach} (h : depth < Evaluator.maxDepth) (hs : Serves (depth + 1) m r) :
    ServesBelow depth m (some r)

section Levels
variable {depth : Nat} {d : Document} {m : Machine} {lower : Option Reach}

theorem keeps_within (h : ServesBelow depth m lower) {name : String} {x : Counted Value}
    {f : Reach → Result Value} (hx : ∀ r, Serves (depth + 1) m r → Keeps (depth + 1) x (f r)) :
    Keeps depth (within name x) (Evaluator.enter name lower f) := by
  cases h with
  | limit h => exact keeps_within_limit h.ge name
  | deeper h hs => exact (hx _ hs).within h name

theorem keeps_valueOf (h : ServesBelow depth m lower) (path : List String) :
    Keeps depth (valueOf d m path) (Evaluator.valueOf d lower path) := by
  unfold valueOf Evaluator.valueOf
  cases d.resolve? path with
  | none => exact keeps_error _
  | some b =>
    cases b with
    | leaf name ps source =>
      cases ps with
      | nil => exact keeps_within h fun r hr => keeps_eval hr _ _
      | cons p ps => exact keeps_ok _
    | block name es =>
      refine keeps_within h fun r hr => ?_
      refine (keeps_mapM fun b => ?_).bind fun fs => keeps_ok _
      exact (hr.valueOf _).bind fun v => keeps_ok _

theorem keeps_callBinding (h : ServesBelow depth m lower) (path : List String)
    (args : List Value) :
    Keeps depth (callBinding d m path args) (Evaluator.callBinding d lower path args) := by
  unfold callBinding Evaluator.callBinding
  cases d.resolve? path with
  | none => exact keeps_error _
  | some b =>
    cases b with
    | block name es => exact keeps_error _
    | leaf name ps source =>
      dsimp only
      split
      · exact keeps_within h fun r hr => keeps_eval hr _ _
      · exact keeps_error _

theorem keeps_native (h : ServesBelow depth m lower) {f : Native} {name : String}
    {args : List Value} {x : Counted Value}
    (hx : ∀ r, Serves (depth + 1) m r → Keeps (depth + 1) x (f.run r.call args)) :
    Keeps depth (if f.type.accepts args.length then within name x
      else throw (.arity name f.type.arity args.length))
      (Evaluator.callNative lower name f args) := by
  unfold Evaluator.callNative
  split
  · exact keeps_within h hx
  · exact keeps_error _

theorem keeps_call (h : ServesBelow depth m lower) (f : Func) (args : List Value) :
    Keeps depth (call d m f args) (Evaluator.call d lower f args) := by
  cases f with
  | binding path => exact keeps_callBinding h path args
  | builtin name =>
    simp only [call, Evaluator.call]
    cases hn : Builtin.find? name with
    | none => exact keeps_error _
    | some f =>
      exact keeps_native h fun r hr => keeps_runBuiltin hr f (Builtin.mem_table hn) args
  | library path =>
    simp only [call, Evaluator.call]
    cases hn : Library.find? path with
    | none => exact keeps_error _
    | some e =>
      cases e with
      | group es => exact keeps_error _
      | function f =>
        refine keeps_native h fun r _ => ?_
        rw [run_noCalls_of_find? hn r.call]
        exact keeps_lift _

end Levels

theorem serves_machine (d : Document) {depth n fuel : Nat} (hd : depth + n = Evaluator.maxDepth)
    (hf : n < fuel) : Serves depth (machine d fuel) (Evaluator.reach d n) := by
  induction n generalizing depth fuel with
  | zero =>
    cases fuel with
    | zero => omega
    | succ fuel =>
      have hb : ServesBelow depth (machine d fuel) none := .limit (by omega)
      exact ⟨keeps_valueOf hb, keeps_call hb⟩
  | succ n ih =>
    cases fuel with
    | zero => omega
    | succ fuel =>
      have hs : Serves (depth + 1) (machine d fuel) (Evaluator.reach d n) :=
        ih (by omega) (by omega)
      have hb : ServesBelow depth (machine d fuel) (some (Evaluator.reach d n)) :=
        .deeper (by omega) hs
      exact ⟨keeps_valueOf hb, keeps_call hb⟩

/-- A computation that keeps the counter with all fuel above some bound has one outcome with enough
fuel, and one end. -/
theorem eventually_iff {x : Nat → Counted α} {y z : Result α} {bound depth last : Nat}
    (h : ∀ fuel, bound < fuel → Keeps depth (x fuel) y) :
    (∃ enough, ∀ fuel, enough ≤ fuel → (x fuel).run.run depth = some (z, last)) ↔
      z = y ∧ last = depth := by
  constructor
  · rintro ⟨enough, hx⟩
    have hfuel := hx (max enough (bound + 1)) (le_max_left _ _)
    have hrun := h (max enough (bound + 1)) (by omega)
    cases hfuel.symm.trans hrun
    exact ⟨rfl, rfl⟩
  · rintro ⟨rfl, rfl⟩
    exact ⟨bound + 1, fun fuel hf => h fuel (by omega)⟩

/-- With enough fuel, an evaluation that starts with the counter at `depth` has the outcome `x` and
ends with the counter at `last`. -/
def Ends (d : Document) (s : Scope) (e : Expr) (depth : Nat) (x : Result Value) (last : Nat) :
    Prop :=
  ∃ enough, ∀ fuel, enough ≤ fuel →
    (eval d (machine d fuel) s e).run.run depth = some (x, last)

section Ends
variable {d : Document} {s : Scope} {e : Expr} {depth : Nat}

/-- Evaluation has one outcome, that of evaluation with the levels that are left, and one end. -/
theorem ends_iff (h : depth ≤ Evaluator.maxDepth) {x : Result Value} {last : Nat} :
    Ends d s e depth x last ↔
      x = Evaluator.eval d (Evaluator.reach d (Evaluator.maxDepth - depth)) s e ∧ last = depth :=
  eventually_iff fun _ hf => keeps_eval (serves_machine d (Nat.add_sub_cancel' h) hf) s e

/-- Evaluation ends from every depth up to the limit, with one outcome, the one that the levels left
allow, and with the counter as it was. An outcome from further down that is not the recursion limit
is also the outcome from here. -/
theorem ends_of_deeper (d : Document) (s : Scope) (e : Expr) {depth depth' : Nat}
    (h : depth ≤ depth') (h' : depth' ≤ Evaluator.maxDepth) :
    (∀ x last, Ends d s e depth x last ↔
      x = Evaluator.eval d (Evaluator.reach d (Evaluator.maxDepth - depth)) s e ∧ last = depth) ∧
    ∀ x last, Ends d s e depth' x last → (∀ name, x ≠ .error (.recursionLimit name)) →
      Ends d s e depth x depth := by
  refine ⟨fun x last => ends_iff (h.trans h'), fun x last hx hl => ?_⟩
  obtain ⟨rfl, -⟩ := (ends_iff h').1 hx
  have hm : Evaluator.maxDepth - depth' ≤ Evaluator.maxDepth - depth := by omega
  exact (ends_iff (h.trans h')).2 ⟨Evaluator.eval_mono hm hl, rfl⟩

/-- Two functions that call each other, run by a builtin: five levels are just enough. -/
theorem ends_of_deeper_mutual : ∃ d e,
    Document.parse "up n = n < 1 ? 1 : down(n - 1)\ndown n = n < 1 ? 0 : up(n - 1)" = .ok d ∧
      Expr.parse "map([3], down)".toList = .ok e ∧
      Ends d ⟨[], []⟩ e 124 (.error (.recursionLimit "up")) 124 ∧
      Ends d ⟨[], []⟩ e 123 (.ok (.list [.int 1])) 123 ∧
      Ends d ⟨[], []⟩ e 0 (.ok (.list [.int 1])) 0 := by
  obtain ⟨d, e, hd, he, hlimit, hv⟩ : ∃ d e,
      Document.parse "up n = n < 1 ? 1 : down(n - 1)\ndown n = n < 1 ? 0 : up(n - 1)" = .ok d ∧
        Expr.parse "map([3], down)".toList = .ok e ∧
        Evaluator.eval d (Evaluator.reach d 4) ⟨[], []⟩ e = .error (.recursionLimit "up") ∧
        Evaluator.eval d (Evaluator.reach d 5) ⟨[], []⟩ e = .ok (.list [.int 1]) := by
    refine ⟨⟨[.leaf "up" [⟨"n", false⟩] ⟨"n < 1 ? 1 : down(n - 1)",
        .cond (.binary .lt (.path ["n"]) (.int 1)) (.int 1)
          (.call (.path ["down"]) [.binary .sub (.path ["n"]) (.int 1)])⟩,
      .leaf "down" [⟨"n", false⟩] ⟨"n < 1 ? 0 : up(n - 1)",
        .cond (.binary .lt (.path ["n"]) (.int 1)) (.int 0)
          (.call (.path ["up"]) [.binary .sub (.path ["n"]) (.int 1)])⟩]⟩,
      .call (.path ["map"]) [.list [.int 3], .path ["down"]], by cbv, by cbv, by rfl, by rfl⟩
  obtain ⟨-, ht⟩ := ends_of_deeper d ⟨[], []⟩ e (show 0 ≤ 123 by decide)
    (show 123 ≤ Evaluator.maxDepth by decide)
  have hstop : Ends d ⟨[], []⟩ e 124 (.error (.recursionLimit "up")) 124 :=
    (ends_iff (show 124 ≤ Evaluator.maxDepth by decide)).2 ⟨hlimit.symm, rfl⟩
  have hlow : Ends d ⟨[], []⟩ e 123 (.ok (.list [.int 1])) 123 :=
    (ends_iff (show 123 ≤ Evaluator.maxDepth by decide)).2 ⟨hv.symm, rfl⟩
  exact ⟨d, e, hd, he, hstop, hlow, ht _ _ hlow (by simp)⟩

end Ends

end Counted

end Tether
