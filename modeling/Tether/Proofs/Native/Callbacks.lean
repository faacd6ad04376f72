import Tether.Proofs.Eval.Agreement
import Tether.Proofs.Native.Names

/-! What native functions do with the functions they are given: with calls that agree they give
values that agree (`Builtin.respects`, `Library.respects_of_find?`), and they make no functions of
their own. -/
namespace Tether
variable {cut : Prop} {names : List String}

/-- The two ways to call a function agree on arguments without functions from `names`. -/
def CallsAgree (cut : Prop) (names : List String) (call call' : Call) : Prop :=
  ∀ f args, f.Avoids names → (∀ v ∈ args, v.Avoids names) →
    Agrees cut (Value.Avoids names) (call f args) (call' f args)

namespace Value

theorem gives_asList {P : List Value → Prop} {function : String} {v : Value}
    (h : ∀ vs, v = list vs → P vs) : Gives P (v.asList function) := by
  cases v with
  | list vs => exact .ok (h vs rfl)
  | _ => exact .error _

theorem Avoids.items {v : Value} (h : v.Avoids names) (vs : List Value) (hv : v = list vs) :
    ∀ w ∈ vs, w.Avoids names :=
  avoids_list.1 (hv ▸ h)

theorem gives_asFunc {function : String} {v : Value} (h : v.Avoids names) :
    Gives (Func.Avoids names) (v.asFunc function) := by
  cases v with
  | func f => exact .ok (avoids_func.1 h)
  | _ => exact .error _

end Value

namespace Native

/-- The function does the same with calls that agree. -/
def Respects (f : Native) : Prop :=
  ∀ (cut : Prop) (names : List String) (call call' : Call), CallsAgree cut names call call' →
    ∀ args, (∀ v ∈ args, v.Avoids names) →
      Agrees cut (Value.Avoids names) (f.run call args) (f.run call' args)

theorem respects_of_gives {f : Native} (hc : ∀ call call' args, f.run call args = f.run call' args)
    (hg : ∀ names call args, (∀ v ∈ args, v.Avoids names) →
      Gives (Value.Avoids names) (f.run call args)) : f.Respects := by
  intro cut names call call' _ args ha
  rw [hc call' call args]
  exact .self (hg names call args ha)

theorem respects_ofUnary {name : String} {kind : ParamKind} {f : Value → Result Value}
    (h : ∀ names v, v.Avoids names → Gives (Value.Avoids names) (f v)) :
    (ofUnary name kind f).Respects := by
  refine respects_of_gives (fun _ _ _ => rfl) fun names call args ha => ?_
  unfold ofUnary
  dsimp only
  split
  next v => exact h names v (ha v List.mem_cons_self)
  · exact .error _

theorem respects_ofBinary {name : String} {first second : ParamKind}
    {f : Call → Value → Value → Result Value}
    (h : ∀ cut names call call', CallsAgree cut names call call' →
      ∀ v w, v.Avoids names → w.Avoids names →
        Agrees cut (Value.Avoids names) (f call v w) (f call' v w)) :
    (ofBinary name first second f).Respects := by
  intro cut names call call' hc args ha
  unfold ofBinary
  dsimp only
  split
  next v w => exact h cut names call call' hc v w (ha v (by simp)) (ha w (by simp))
  · exact .error _

theorem respects_ofPair {name : String} {first second : ParamKind}
    {f : Value → Value → Result Value}
    (h : ∀ names v w, v.Avoids names → w.Avoids names → Gives (Value.Avoids names) (f v w)) :
    (ofBinary name first second fun _ => f).Respects :=
  respects_ofBinary fun _ names _ _ _ v w hv hw => .self (h names v w hv hw)

theorem Respects.ofUnary {name : String} {kind : ParamKind} {f : Value → Result Value}
    (h : ∀ v, Gives Value.Scalar (f v)) : (Native.ofUnary name kind f).Respects :=
  respects_ofUnary fun _ v _ => (h v).imp fun _ => Value.Scalar.avoids

theorem Respects.ofBinary {name : String} {first second : ParamKind}
    {f : Value → Value → Result Value} (h : ∀ v w, Gives Value.Scalar (f v w)) :
    (Native.ofBinary name first second fun _ => f).Respects :=
  respects_ofPair fun _ v w _ _ => (h v w).imp fun _ => Value.Scalar.avoids

end Native

namespace Builtin
open Value

section Loops
variable {call call' : Call} {f : Func} {vs : List Value}

theorem agrees_holds (hc : CallsAgree cut names call call') (hf : f.Avoids names)
    (hvs : ∀ v ∈ vs, v.Avoids names) :
    ∀ v ∈ vs, Agrees cut (fun _ => True) (holds call f v) (holds call' f v) := by
  intro v hv
  have hcall := hc f [v] hf (by simpa using hvs v hv)
  exact hcall.bind fun w _ => .self (.any w.toBool)

theorem agrees_keep {test test' : Value → Result Bool}
    (ht : ∀ v ∈ vs, Agrees cut (fun _ => True) (test v) (test' v)) {kept : List Value}
    (hk : ∀ v ∈ kept, v.Avoids names) (hv : ∀ v ∈ vs, v.Avoids names) :
    Agrees cut (fun ws => ∀ w ∈ ws, w.Avoids names) (keep test kept vs) (keep test' kept vs) := by
  induction vs generalizing kept with
  | nil => exact .ok (by simpa using hk)
  | cons v vs ih =>
    obtain ⟨ht, hts⟩ := List.forall_mem_cons.1 ht
    obtain ⟨hv, hvs⟩ := List.forall_mem_cons.1 hv
    refine ht.bind fun b _ => ?_
    cases b with
    | false => exact ih hts hk hvs
    | true => exact ih hts (List.forall_mem_cons.2 ⟨hv, hk⟩) hvs

theorem agrees_mapItems {g g' : Value → Result Value} {done : List Value}
    (hg : ∀ v ∈ vs, Agrees cut (Avoids names) (g v) (g' v)) (hd : ∀ v ∈ done, v.Avoids names) :
    Agrees cut (fun ws => ∀ w ∈ ws, w.Avoids names) (mapItems g done vs) (mapItems g' done vs) := by
  induction vs generalizing done with
  | nil => exact .ok (by simpa using hd)
  | cons v vs ih =>
    obtain ⟨hv, hvs⟩ := List.forall_mem_cons.1 hg
    refine hv.bind fun w hw => ?_
    exact ih hvs (List.forall_mem_cons.2 ⟨hw, hd⟩)

theorem agrees_allItems {test test' : Value → Result Bool}
    (ht : ∀ v ∈ vs, Agrees cut (fun _ => True) (test v) (test' v)) :
    Agrees cut (fun _ => True) (allItems test vs) (allItems test' vs) := by
  induction vs with
  | nil => exact .ok trivial
  | cons v vs ih =>
    obtain ⟨ht, hts⟩ := List.forall_mem_cons.1 ht
    refine ht.bind fun b _ => ?_
    cases b with
    | false => exact .ok trivial
    | true => exact ih hts

theorem agrees_anyItem {test test' : Value → Result Bool}
    (ht : ∀ v ∈ vs, Agrees cut (fun _ => True) (test v) (test' v)) :
    Agrees cut (fun _ => True) (anyItem test vs) (anyItem test' vs) := by
  induction vs with
  | nil => exact .ok trivial
  | cons v vs ih =>
    obtain ⟨ht, hts⟩ := List.forall_mem_cons.1 ht
    refine ht.bind fun b _ => ?_
    cases b with
    | false => exact ih hts
    | true => exact .ok trivial

end Loops

section Callers
variable {call call' : Call} {v w : Value} (hc : CallsAgree cut names call call')
  (hv : v.Avoids names) (hw : w.Avoids names)
include hv hw

theorem agrees_reading {function : String} {g g' : List Value → Func → Result Value}
    (h : ∀ vs f, (∀ u ∈ vs, u.Avoids names) → f.Avoids names →
      Agrees cut (Avoids names) (g vs f) (g' vs f)) :
    Agrees cut (Avoids names) (v.asList function >>= fun vs => w.asFunc function >>= g vs)
      (v.asList function >>= fun vs => w.asFunc function >>= g' vs) := by
  refine Agrees.bind (.self (gives_asList hv.items)) fun vs hvs => ?_
  exact Agrees.bind (.self (gives_asFunc hw)) fun f hf => h vs f hvs hf

include hc

theorem agrees_filter : Agrees cut (Avoids names) (filter call v w) (filter call' v w) := by
  refine agrees_reading hv hw fun vs f hvs hf => ?_
  have hkeep := agrees_keep (agrees_holds hc hf hvs) (List.forall_mem_nil _) hvs
  exact hkeep.bind fun ws hws => .ok (avoids_list.2 hws)

theorem agrees_map : Agrees cut (Avoids names) (map call v w) (map call' v w) := by
  refine agrees_reading hv hw fun vs f hvs hf => ?_
  have hcall : ∀ u ∈ vs, Agrees cut (Avoids names) (call f [u]) (call' f [u]) :=
    fun u hu => hc f [u] hf (by simpa using hvs u hu)
  exact (agrees_mapItems hcall (by simp)).bind fun ws hws => .ok (avoids_list.2 hws)

theorem agrees_all : Agrees cut (Avoids names) (all call v w) (all call' v w) := by
  refine agrees_reading hv hw fun vs f hvs hf => ?_
  exact (agrees_allItems (agrees_holds hc hf hvs)).bind fun b _ => .ok (avoids_bool b)

theorem agrees_any : Agrees cut (Avoids names) (any call v w) (any call' v w) := by
  refine agrees_reading hv hw fun vs f hvs hf => ?_
  exact (agrees_anyItem (agrees_holds hc hf hvs)).bind fun b _ => .ok (avoids_bool b)

end Callers

theorem gives_length (v : Value) : Gives Scalar (length v) := by
  cases v with
  | str s | list vs | record fs => exact .ok (.int _)
  | _ => exact .error _

theorem gives_split (v w : Value) : Gives (Avoids names) (split v w) := by
  refine .read fun s => .read fun sep => ?_
  dsimp only
  split
  · exact .error _
  · exact .ok (by simp)

theorem gives_contains (v w : Value) : Gives Scalar (contains v w) := by
  cases v with
  | list vs => exact .ok (.bool _)
  | str s | record fs => exact .read fun _ => .ok (.bool _)
  | _ => exact .error _

theorem gives_sum (v : Value) : Gives Scalar (sum v) := by
  refine .read fun vs => .read fun total => ?_
  obtain ⟨n, x⟩ := total
  cases x with
  | none => exact gives_ofInt n
  | some x => exact .ok (.float _)

theorem gives_toInt (v : Value) : Gives Scalar (toInt v) := by
  cases v with
  | int n | float x | bool b => exact .ok (.int _)
  | str s =>
    unfold toInt
    dsimp only
    split
    · exact .ok (.int _)
    · exact .error _
  | _ => exact .error _

theorem gives_abs (v : Value) : Gives Scalar (abs v) := .read fun _ => gives_ofInt _

theorem gives_range (v w : Value) : Gives (Avoids names) (range v w) := by
  refine .read fun a => .read fun b => ?_
  dsimp only
  split
  · exact .error _
  · exact .ok (by simp)

theorem gives_extreme {P : Value → Prop} {side : Ordering} {best : Value} {vs : List Value}
    (hb : P best) (hv : ∀ v ∈ vs, P v) : Gives P (extreme side best vs) := by
  induction vs generalizing best with
  | nil => exact .ok hb
  | cons v vs ih =>
    obtain ⟨hv, hvs⟩ := List.forall_mem_cons.1 hv
    refine .read fun o => ?_
    split
    · exact ih hv hvs
    · exact ih hb hvs

theorem gives_picker {P : Value → Prop} {args : List Value} (h : ∀ v ∈ args, P v) (name : String)
    (side : Ordering) (call : Call) : Gives P ((picker name side).run call args) := by
  cases args with
  | nil => exact .error _
  | cons v vs =>
    obtain ⟨hv, hvs⟩ := List.forall_mem_cons.1 h
    exact gives_extreme hv hvs

theorem respects_picker (name : String) (side : Ordering) : (picker name side).Respects :=
  Native.respects_of_gives (fun _ _ _ => rfl) fun _ call _ ha => gives_picker ha name side call

theorem respects : ∀ f ∈ table, f.Respects := by
  simp only [table, List.forall_mem_cons]
  refine ⟨.ofUnary gives_length, ?upper, ?lower, ?trim, ?join, ?split, .ofBinary gives_contains,
    ?filter, ?map, ?all, ?any, .ofUnary gives_sum, respects_picker _ _, respects_picker _ _, ?str,
    .ofUnary gives_toInt, ?range, .ofUnary gives_abs, by simp⟩
  case upper | lower | trim =>
    exact Native.respects_ofUnary fun _ v _ => .read fun s => .ok (avoids_str _)
  case str => exact Native.respects_ofUnary fun _ v _ => .ok (avoids_str _)
  case join =>
    exact Native.respects_ofPair fun _ v w _ _ => .read fun s => .read fun vs => .ok (avoids_str _)
  case split => exact Native.respects_ofPair fun _ v w _ _ => gives_split v w
  case range => exact Native.respects_ofPair fun _ v w _ _ => gives_range v w
  case filter =>
    exact Native.respects_ofBinary fun _ _ _ _ hc v w hv hw => agrees_filter hc hv hw
  case map => exact Native.respects_ofBinary fun _ _ _ _ hc v w hv hw => agrees_map hc hv hw
  case all => exact Native.respects_ofBinary fun _ _ _ _ hc v w hv hw => agrees_all hc hv hw
  case any => exact Native.respects_ofBinary fun _ _ _ _ hc v w hv hw => agrees_any hc hv hw

theorem mem_table {name : String} {f : Native} (h : find? name = some f) : f ∈ table :=
  List.mem_of_find?_eq_some h

end Builtin

namespace Library
open Value

theorem gives_repeatText (v w : Value) : Gives (Avoids names) (repeatText v w) := by
  refine .read fun s => .read fun n => ?_
  dsimp only
  split
  · exact .error _
  split
  · exact .error _
  split <;> exact .ok (avoids_str _)

theorem gives_pow (v w : Value) : Gives Scalar (pow v w) := by
  refine .read fun b => .read fun e => ?_
  dsimp only
  split
  · exact .error _
  · exact gives_ofInt _

theorem gives_hasPrefix (v w : Value) : Gives Scalar (hasPrefix v w) :=
  .read fun _ => .read fun _ => .ok (.bool _)

theorem gives_clamp (call : Call) (args : List Value) : Gives Scalar (clamp.run call args) := by
  unfold clamp
  dsimp only
  split
  · refine .read fun n => .read fun low => .read fun high => ?_
    split
    · exact .error _
    · exact .ok (.int _)
  · exact .error _

section Items
variable {P : Value → Prop} {v : Value} (h : ∀ vs, v = list vs → ∀ w ∈ vs, P w)
include h

theorem gives_firstItem : Gives P (firstItem v) := by
  refine (gives_asList h).bind fun vs hvs => ?_
  split
  next w hw => exact .ok (hvs w (List.mem_of_head? hw))
  · exact .error _

theorem gives_lastItem : Gives P (lastItem v) := by
  refine (gives_asList h).bind fun vs hvs => ?_
  split
  next w hw => exact .ok (hvs w (List.mem_of_getLast? hw))
  · exact .error _

end Items

theorem gives_reverseItems {v : Value} (h : v.Avoids names) :
    Gives (Avoids names) (reverseItems v) := by
  refine (gives_asList h.items).bind fun vs hvs => .ok ?_
  simpa using hvs

theorem respects_concat : concat.Respects := by
  refine Native.respects_of_gives (fun _ _ _ => rfl) fun names call args ha => ?_
  have hl : ∀ v ∈ args, Agrees False (fun ws => ∀ w ∈ ws, w.Avoids names)
      (v.asList "list.concat") (v.asList "list.concat") :=
    fun v hv => .self (gives_asList (ha v hv).items)
  refine (agrees_mapM hl).gives.bind fun wss hwss => .ok ?_
  simpa using fun w ws hws hw => hwss ws hws w hw

theorem respects_clamp : clamp.Respects :=
  Native.respects_of_gives (fun _ _ _ => rfl) fun _ call args _ =>
    (gives_clamp call args).imp fun _ => Scalar.avoids

theorem respects_tree : ∀ p ∈ Entry.functions tree, p.2.Respects := by
  simp only [Entry.functions, tree, Entry.functionsIn, Entry.functionsOf, List.append_nil,
    List.cons_append, List.nil_append, List.forall_mem_cons]
  refine ⟨respects_concat, ?first, ?last, ?reverse, respects_clamp, .ofBinary gives_pow, ?kebab,
    ?snake, .ofBinary gives_hasPrefix, ?again, ?backwards, by simp⟩
  case first => exact Native.respects_ofUnary fun _ v hv => gives_firstItem hv.items
  case last => exact Native.respects_ofUnary fun _ v hv => gives_lastItem hv.items
  case reverse => exact Native.respects_ofUnary fun _ v hv => gives_reverseItems hv
  case kebab | snake | backwards =>
    exact Native.respects_ofUnary fun _ v _ => .read fun s => .ok (avoids_str _)
  case again => exact Native.respects_ofPair fun _ v w _ _ => gives_repeatText v w

theorem respects_of_find? {path : String} {f : Native} (h : find? path = some (.function f)) :
    f.Respects :=
  respects_tree (path, f) (mem_functions h)

end Library

end Tether
