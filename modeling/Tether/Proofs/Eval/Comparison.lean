import Mathlib
import Tether.Proofs.Native.Callbacks

/-! Evaluation in two documents that differ only in what some names are bound to outside all blocks
(`SameBut`), and with different numbers of levels: `agrees_reach`, `agrees_eval`. With one document
this says that more levels change nothing but the recursion limit: `eval_mono`, `valueOf_mono`. -/
namespace Tether

mutual

def Expr.firstNames : Expr → List String
  | .path names => names.take 1
  | .list es => firstNamesOf es
  | .call callee args => callee.firstNames ++ firstNamesOf args
  | .index target i => target.firstNames ++ i.firstNames
  | .unary _ e => e.firstNames
  | .binary _ a b => a.firstNames ++ b.firstNames
  | .cond test yes no => test.firstNames ++ (yes.firstNames ++ no.firstNames)
  | .int _ | .float _ | .str _ | .bool _ => []

def firstNamesOf : List Expr → List String
  | [] => []
  | e :: es => e.firstNames ++ firstNamesOf es

end

mutual

def Binding.firstNames : Binding → List String
  | .leaf _ _ source => source.expr.firstNames
  | .block _ es => firstNamesIn es

def firstNamesIn : List Binding → List String
  | [] => []
  | b :: bs => b.firstNames ++ firstNamesIn bs

end

/-- The documents have the same bindings but for outermost ones with some names, which no expression
of the first one mentions. -/
structure SameBut (names : List String) (d d' : Document) : Prop where
  resolve : ∀ path, Outside names path → d.resolve? path = d'.resolve? path
  mentions : ∀ path b, d.resolve? path = some b → b.firstNames.Disjoint names

theorem SameBut.refl (d : Document) : SameBut [] d d :=
  ⟨fun _ _ => rfl, fun _ _ _ => List.disjoint_nil_right _⟩

structure ReachAgrees (cut : Prop) (names : List String) (r r' : Reach) : Prop where
  valueOf : ∀ path, Outside names path →
    Agrees cut (Value.Avoids names) (r.valueOf path) (r'.valueOf path)
  call : CallsAgree cut names r.call r'.call

structure Scope.Avoids (names : List String) (s : Scope) : Prop where
  block : Outside names s.block
  locals : ∀ l ∈ s.locals, l.2.Avoids names

theorem Scope.avoids_nil (s : Scope) : s.Avoids [] :=
  ⟨by simp [Outside], fun l _ => l.2.avoids_nil⟩

section Paths
variable {names path : List String}

theorem outside_take (h : Outside names path) (k : Nat) : Outside names (path.take k) := by
  intro n hn
  cases path with
  | nil => simp at hn
  | cons m ms =>
    cases k with
    | zero => simp at hn
    | succ k => exact h n hn

theorem outside_append (h : Outside names path) {m : String} (hm : m ∉ names) (ms : List String) :
    Outside names (path ++ m :: ms) := by
  intro n hn
  cases path with
  | nil =>
    cases hn
    exact hm
  | cons k ks => exact h n hn

theorem outside_child {n m : String} {ms : List String} (h : Outside names (m :: ms)) :
    Outside names (m :: ms ++ [n]) := h

variable {d d' : Document} (hd : SameBut names d d')
include hd

theorem SameBut.find?_entriesAt (h : Outside names path) {n : String} (hn : n ∉ names) :
    find? n (d.entriesAt path) = find? n (d'.entriesAt path) := by
  cases path with
  | nil => exact hd.resolve [n] (by simpa [Outside] using hn)
  | cons m ms =>
    have he : (d.resolve? (m :: ms)).map Binding.entries =
        (d'.resolve? (m :: ms)).map Binding.entries := by rw [hd.resolve _ h]
    simp only [Document.entriesAt, he]

theorem SameBut.home? (h : Outside names path) {n : String} (hn : n ∉ names) :
    d.home? path n = d'.home? path n := by
  refine List.find?_congr fun p hp => ?_
  obtain ⟨k, -, rfl⟩ := List.mem_map.1 hp
  rw [hd.find?_entriesAt (outside_take h k) hn]

end Paths

theorem Scope.avoids_dropLast {names path : List String} {locals : List (String × Value)}
    (h : Outside names path) (hl : ∀ l ∈ locals, l.2.Avoids names) :
    Scope.Avoids names ⟨path.dropLast, locals⟩ := by
  refine ⟨?_, hl⟩
  rw [List.dropLast_eq_take]
  exact outside_take h _

theorem outside_of_home? {names block p : List String} {d : Document} {n : String}
    (h : Outside names block) (hp : d.home? block n = some p) : Outside names p := by
  obtain ⟨k, -, rfl⟩ := List.mem_map.1 (List.mem_of_find?_eq_some hp)
  exact outside_take h k

namespace Evaluator
variable {cut : Prop} {names : List String}

theorem avoids_bindParams {ps : List Param} {args : List Value}
    (h : ∀ v ∈ args, v.Avoids names) : ∀ l ∈ bindParams ps args, l.2.Avoids names := by
  induction ps generalizing args with
  | nil => simp [bindParams]
  | cons p ps ih =>
    unfold bindParams
    by_cases hp : p.variadic = true
    · simpa [hp] using h
    · rw [if_neg hp]
      cases args with
      | nil => simp
      | cons v vs =>
        obtain ⟨hv, hvs⟩ := List.forall_mem_cons.1 h
        exact List.forall_mem_cons.2 ⟨hv, ih hvs⟩

theorem gives_nativeValue (path : List String) :
    Gives (Value.Avoids names) (nativeValue path) := by
  have hl (p : String) : Gives (Value.Avoids names) (nativeValue.inLibrary p) := by
    unfold nativeValue.inLibrary
    split
    · exact .ok (by simp [Func.Avoids])
    · exact .error _
    · exact .error _
  unfold nativeValue
  dsimp only
  split
  · split
    · exact .ok (by simp [Func.Avoids])
    · exact hl _
  · exact hl _

theorem agrees_test {x y : Result Value} {f g : Bool → Result Value}
    (h : Agrees cut (Value.Avoids names) x y)
    (hf : ∀ t, Agrees cut (Value.Avoids names) (f t) (g t)) :
    Agrees cut (Value.Avoids names) (x >>= fun v => v.toBool >>= f)
      (y >>= fun v => v.toBool >>= g) :=
  h.bind fun v _ => (Agrees.self (.any v.toBool)).bind fun t _ => hf t

section Expressions
variable {d d' : Document} {r r' : Reach} {s : Scope}

theorem agrees_resolve (hd : SameBut names d d') (hr : ReachAgrees cut names r r')
    (hs : s.Avoids names) {path : List String} (hp : (path.take 1).Disjoint names) :
    Agrees cut (Value.Avoids names) (resolve d r s path) (resolve d' r' s path) := by
  cases path with
  | nil => exact .error _
  | cons n ns =>
    have hn : n ∉ names := by simpa using hp
    unfold resolve
    dsimp only
    cases hl : s.locals.lookup n with
    | some v => exact .self (Value.gives_fields (hs.locals (n, v) (mem_of_lookup hl)) ns)
    | none =>
      dsimp only
      rw [← hd.home? hs.block hn]
      cases hh : d.home? s.block n with
      | none => exact .self (gives_nativeValue _)
      | some p =>
        have ho : Outside names (p ++ n :: ns) :=
          outside_append (outside_of_home? hs.block hh) hn ns
        dsimp only
        rw [← hd.resolve _ ho]
        split
        · exact hr.valueOf _ ho
        · exact .error _

mutual

theorem agrees_eval (hd : SameBut names d d') (hr : ReachAgrees cut names r r')
    (hs : s.Avoids names) : (e : Expr) → e.firstNames.Disjoint names →
    Agrees cut (Value.Avoids names) (eval d r s e) (eval d' r' s e)
  | .int n, _ => .ok (Value.avoids_int n)
  | .float x, _ => .ok (Value.avoids_float x)
  | .str t, _ => .ok (Value.avoids_str t)
  | .bool b, _ => .ok (Value.avoids_bool b)
  | .list es, h => by
    have hes := agrees_evalList hd hr hs es h
    exact hes.bind fun vs hvs => .ok (Value.avoids_list.2 hvs)
  | .path path, h => agrees_resolve hd hr hs h
  | .call callee args, h => by
    obtain ⟨hc, ha⟩ := List.disjoint_append_left.1 h
    have hargs := agrees_evalList hd hr hs args ha
    refine (agrees_eval hd hr hs callee hc).bind fun v hv => ?_
    cases v with
    | func f => exact hargs.bind fun vs hvs => hr.call f vs (Value.avoids_func.1 hv) hvs
    | _ => exact .error _
  | .index target i, h => by
    obtain ⟨ht, hi⟩ := List.disjoint_append_left.1 h
    have hat := agrees_eval hd hr hs i hi
    refine (agrees_eval hd hr hs target ht).bind fun v hv => ?_
    exact hat.bind fun w _ => .self (Value.gives_index hv)
  | .unary op e, h => by
    refine (agrees_eval hd hr hs e h).bind fun v _ => ?_
    cases op with
    | neg => exact .self ((Value.gives_neg v).imp fun _ => Value.Scalar.avoids)
    | not => exact .self ((Value.gives_not v).imp fun _ => Value.Scalar.avoids)
  | .binary op a b, h => by
    obtain ⟨ha, hb⟩ := List.disjoint_append_left.1 h
    have hleft := agrees_eval hd hr hs a ha
    have hright := agrees_eval hd hr hs b hb
    have hok (t : Bool) : Agrees cut (Value.Avoids names) (.ok (.bool t)) (.ok (.bool t)) :=
      .ok (Value.avoids_bool t)
    cases op with
    | and =>
      refine agrees_test hleft fun t => ?_
      cases t with
      | false => exact hok false
      | true => exact agrees_test hright hok
    | or =>
      refine agrees_test hleft fun t => ?_
      cases t with
      | false => exact agrees_test hright hok
      | true => exact hok true
    | _ => exact hleft.bind fun v hv => hright.bind fun w hw => .self (Value.gives_binary hv hw)
  | .cond test yes no, h => by
    obtain ⟨ht, h⟩ := List.disjoint_append_left.1 h
    obtain ⟨hy, hn⟩ := List.disjoint_append_left.1 h
    have hyes := agrees_eval hd hr hs yes hy
    have hno := agrees_eval hd hr hs no hn
    refine agrees_test (agrees_eval hd hr hs test ht) fun t => ?_
    cases t with
    | false => exact hno
    | true => exact hyes

theorem agrees_evalList (hd : SameBut names d d') (hr : ReachAgrees cut names r r')
    (hs : s.Avoids names) : (es : List Expr) → (firstNamesOf es).Disjoint names →
    Agrees cut (fun vs => ∀ v ∈ vs, v.Avoids names) (evalList d r s es) (evalList d' r' s es)
  | [], _ => .ok (by simp)
  | e :: es, h => by
    obtain ⟨he, hes⟩ := List.disjoint_append_left.1 h
    have hrest := agrees_evalList hd hr hs es hes
    refine (agrees_eval hd hr hs e he).bind fun v hv => ?_
    exact hrest.bind fun vs hvs => .ok (List.forall_mem_cons.2 ⟨hv, hvs⟩)

end

end Expressions

/-- The levels below agree, or there are none below in the first run alone. -/
inductive LowerAgrees (cut : Prop) (names : List String) : Option Reach → Option Reach → Prop
  | none : LowerAgrees cut names none none
  | some {r r' : Reach} (h : ReachAgrees cut names r r') : LowerAgrees cut names (some r) (some r')
  | deeper {r' : Reach} (h : cut) : LowerAgrees cut names none (some r')

section Levels
variable {d d' : Document} {lower lower' : Option Reach} (hd : SameBut names d d')
  (hl : LowerAgrees cut names lower lower')

include hl in
theorem agrees_enter {name : String} {f g : Reach → Result Value}
    (h : ∀ r r', ReachAgrees cut names r r' → Agrees cut (Value.Avoids names) (f r) (g r')) :
    Agrees cut (Value.Avoids names) (enter name lower f) (enter name lower' g) := by
  cases hl with
  | none => exact .error _
  | some hr => exact h _ _ hr
  | deeper hc => exact .limit hc

include hl in
theorem agrees_callNative {f : Native} (hf : f.Respects) (name : String) {args : List Value}
    (ha : ∀ v ∈ args, v.Avoids names) :
    Agrees cut (Value.Avoids names) (callNative lower name f args)
      (callNative lower' name f args) := by
  unfold callNative
  split
  · exact agrees_enter hl fun r r' hr => hf cut names r.call r'.call hr.call args ha
  · exact .error _

include hd hl

theorem agrees_valueOf {path : List String} (hp : Outside names path) :
    Agrees cut (Value.Avoids names) (valueOf d lower path) (valueOf d' lower' path) := by
  unfold valueOf
  rw [← hd.resolve path hp]
  cases hb : d.resolve? path with
  | none => exact .error _
  | some b =>
    cases b with
    | leaf name ps source =>
      cases ps with
      | nil =>
        refine agrees_enter hl fun r r' hr => ?_
        have hs : Scope.Avoids names ⟨path.dropLast, []⟩ := Scope.avoids_dropLast hp (by simp)
        exact agrees_eval hd hr hs source.expr (hd.mentions path _ hb)
      | cons p ps => exact .ok (Value.avoids_func.2 hp)
    | block name es =>
      refine agrees_enter hl fun r r' hr => ?_
      obtain ⟨m, ms, rfl⟩ : ∃ m ms, path = m :: ms := by
        cases path with
        | nil => cases hb
        | cons m ms => exact ⟨m, ms, rfl⟩
      have hes : ∀ e ∈ es, Agrees cut (fun f : String × Value => f.2.Avoids names)
          (do return (e.name, ← r.valueOf (m :: ms ++ [e.name])))
          (do return (e.name, ← r'.valueOf (m :: ms ++ [e.name]))) :=
        fun e _ => (hr.valueOf _ (outside_child hp)).bind fun v hv => .ok hv
      exact (agrees_mapM hes).bind fun fs hfs => .ok (Value.avoids_record.2 hfs)

theorem agrees_callBinding {path : List String} (hp : Outside names path) {args : List Value}
    (ha : ∀ v ∈ args, v.Avoids names) :
    Agrees cut (Value.Avoids names) (callBinding d lower path args)
      (callBinding d' lower' path args) := by
  unfold callBinding
  dsimp only
  rw [← hd.resolve path hp]
  cases hb : d.resolve? path with
  | none => exact .error _
  | some b =>
    cases b with
    | block name es => exact .error _
    | leaf name ps source =>
      dsimp only
      split
      · refine agrees_enter hl fun r r' hr => ?_
        have hs : Scope.Avoids names ⟨path.dropLast, bindParams ps args⟩ :=
          Scope.avoids_dropLast hp (avoids_bindParams ha)
        exact agrees_eval hd hr hs source.expr (hd.mentions path _ hb)
      · exact .error _

theorem agrees_call : CallsAgree cut names (call d lower) (call d' lower') := by
  intro f args hf ha
  cases f with
  | binding path => exact agrees_callBinding hd hl hf ha
  | builtin name =>
    simp only [call]
    cases hn : Builtin.find? name with
    | none => exact .error _
    | some f => exact agrees_callNative hl (Builtin.respects f (Builtin.mem_table hn)) name ha
  | library path =>
    simp only [call]
    cases hn : Library.find? path with
    | none => exact .error _
    | some e =>
      cases e with
      | function f => exact agrees_callNative hl (Library.respects_of_find? hn) path ha
      | group es => exact .error _

theorem agrees_reachOver : ReachAgrees cut names (reachOver d lower) (reachOver d' lower') :=
  ⟨fun _ hp => agrees_valueOf hd hl hp, agrees_call hd hl⟩

end Levels

theorem agrees_reach {d d' : Document} (hd : SameBut names d d') {m n : Nat} (h : m ≤ n)
    (hc : m = n ∨ cut) : ReachAgrees cut names (reach d m) (reach d' n) := by
  induction m generalizing n with
  | zero =>
    cases n with
    | zero => exact agrees_reachOver hd .none
    | succ n => exact agrees_reachOver hd (.deeper (hc.resolve_left (by omega)))
  | succ m ih =>
    cases n with
    | zero => omega
    | succ n => exact agrees_reachOver hd (.some (ih (by omega) (hc.imp_left (by omega))))

/-- More levels change only what came to the recursion limit. -/
theorem eval_mono {m n : Nat} (h : m ≤ n) {d : Document} {s : Scope} {e : Expr}
    (hx : ∀ name, eval d (reach d m) s e ≠ .error (.recursionLimit name)) :
    eval d (reach d m) s e = eval d (reach d n) s e := by
  have hr : ReachAgrees True [] (reach d m) (reach d n) :=
    agrees_reach (SameBut.refl d) h (.inr trivial)
  exact (agrees_eval (SameBut.refl d) hr s.avoids_nil e
    (List.disjoint_nil_right _)).eq_of_ne_limit hx

theorem valueOf_mono {m n : Nat} (h : m ≤ n) {d : Document} {path : List String}
    (hx : ∀ name, (reach d m).valueOf path ≠ .error (.recursionLimit name)) :
    (reach d m).valueOf path = (reach d n).valueOf path := by
  have hr : ReachAgrees True [] (reach d m) (reach d n) :=
    agrees_reach (SameBut.refl d) h (.inr trivial)
  exact (hr.valueOf path (by simp [Outside])).eq_of_ne_limit hx

end Evaluator

end Tether
