import Tether.Eval.Evaluator
import Tether.Proofs.Outcome

/-! Two runs side by side. They agree when they have one outcome, or when the first one ends at the
recursion limit and it is left open what comes then (`Agrees`). Values are compared together with
the functions in them, which must not come from certain outermost bindings (`Value.Avoids`). -/
namespace Tether

section Outcomes
variable {α β : Type} {cut : Prop} {P : α → Prop} {Q : β → Prop} {x y : Result α}

def Gives (P : α → Prop) (x : Result α) : Prop := ∀ a, x = .ok a → P a

theorem Gives.ok {a : α} (h : P a) : Gives P (.ok a) := by
  rintro _ ⟨⟩
  exact h

theorem Gives.error (e : EvalError) : Gives P (.error e : Result α) := nofun

theorem Gives.bind {f : α → Result β} (hx : Gives P x) (hf : ∀ a, P a → Gives Q (f a)) :
    Gives Q (x >>= f) := by
  intro b hb
  obtain ⟨a, ha, hb⟩ := bind_eq_ok.1 hb
  exact hf a (hx a ha) b hb

theorem Gives.any (x : Result α) : Gives (fun _ => True) x := fun _ _ => trivial

theorem Gives.read {f : α → Result β} (hf : ∀ a, Gives Q (f a)) : Gives Q (x >>= f) :=
  (Gives.any x).bind fun a _ => hf a

theorem Gives.imp {R : α → Prop} (h : Gives P x) (hi : ∀ a, P a → R a) : Gives R x :=
  fun a ha => hi a (h a ha)

/-- The first outcome is also the second one, and a value in it meets `P`. If `cut` holds, the first
one may also be the recursion limit, whatever the second one is. -/
inductive Agrees (cut : Prop) (P : α → Prop) : Result α → Result α → Prop
  | ok {a : α} (h : P a) : Agrees cut P (.ok a) (.ok a)
  | error (e : EvalError) : Agrees cut P (.error e) (.error e)
  | limit {name : String} {y : Result α} (h : cut) : Agrees cut P (.error (.recursionLimit name)) y

theorem Agrees.bind {f g : α → Result β} (h : Agrees cut P x y)
    (hf : ∀ a, P a → Agrees cut Q (f a) (g a)) : Agrees cut Q (x >>= f) (y >>= g) := by
  cases h with
  | ok h => exact hf _ h
  | error e => exact .error e
  | limit h => exact .limit h

theorem Agrees.self (h : Gives P x) : Agrees cut P x x := by
  cases x with
  | ok a => exact .ok (h a rfl)
  | error e => exact .error e

theorem Agrees.gives (h : Agrees cut P x y) : Gives P x := by
  cases h with
  | ok h => exact .ok h
  | error e => exact .error e
  | limit h => exact .error _

/-- Without the tolerance for the recursion limit there is one outcome. -/
theorem Agrees.eq (h : Agrees False P x y) : x = y := by
  cases h with
  | ok h => rfl
  | error e => rfl
  | limit h => exact h.elim

theorem Agrees.eq_of_ne_limit (h : Agrees cut P x y)
    (hx : ∀ name, x ≠ .error (.recursionLimit name)) : x = y := by
  cases h with
  | ok h => rfl
  | error e => rfl
  | limit h => exact absurd rfl (hx _)

theorem agrees_mapM {γ : Type} {f g : γ → Result α} {cs : List γ}
    (h : ∀ c ∈ cs, Agrees cut P (f c) (g c)) :
    Agrees cut (fun as => ∀ a ∈ as, P a) (cs.mapM f) (cs.mapM g) := by
  induction cs with
  | nil => exact .ok (by simp)
  | cons c cs ih =>
    have hc := h c List.mem_cons_self
    have hcs := ih fun b hb => h b (List.mem_cons_of_mem c hb)
    rw [List.mapM_cons, List.mapM_cons]
    refine hc.bind fun a ha => hcs.bind fun as has => .ok ?_
    exact List.forall_mem_cons.2 ⟨ha, has⟩

end Outcomes

def Outside (names path : List String) : Prop := ∀ n ∈ path.head?, n ∉ names

def Func.Avoids (names : List String) : Func → Prop
  | .binding path => Outside names path
  | .builtin _ | .library _ => True

namespace Value

mutual

def functions : Value → List Func
  | list vs => functionsOfItems vs
  | record fs => functionsOfFields fs
  | func f => [f]
  | int _ | float _ | str _ | bool _ => []

def functionsOfItems : List Value → List Func
  | [] => []
  | v :: vs => v.functions ++ functionsOfItems vs

def functionsOfFields : List (String × Value) → List Func
  | [] => []
  | (_, v) :: fs => v.functions ++ functionsOfFields fs

end

theorem functionsOfItems_eq (vs : List Value) : functionsOfItems vs = vs.flatMap functions := by
  induction vs with
  | nil => rfl
  | cons v vs ih => rw [functionsOfItems, ih, List.flatMap_cons]

theorem functionsOfFields_eq (fs : List (String × Value)) :
    functionsOfFields fs = fs.flatMap fun f => f.2.functions := by
  induction fs with
  | nil => rfl
  | cons f fs ih =>
    obtain ⟨n, v⟩ := f
    rw [functionsOfFields, ih, List.flatMap_cons]

/-- No function in the value comes from an outermost binding with one of the names. -/
def Avoids (names : List String) (v : Value) : Prop := ∀ f ∈ v.functions, f.Avoids names

variable {names : List String}

@[simp] theorem avoids_int (n : Int64) : (int n).Avoids names := nofun

@[simp] theorem avoids_float (x : Float) : (float x).Avoids names := nofun

@[simp] theorem avoids_str (s : String) : (str s).Avoids names := nofun

@[simp] theorem avoids_bool (b : Bool) : (bool b).Avoids names := nofun

@[simp] theorem avoids_func {f : Func} : (func f).Avoids names ↔ f.Avoids names :=
  List.forall_mem_singleton

@[simp] theorem avoids_list {vs : List Value} :
    (list vs).Avoids names ↔ ∀ v ∈ vs, v.Avoids names := by
  simp only [Avoids, functions, functionsOfItems_eq, List.mem_flatMap]
  exact ⟨fun h v hv f hf => h f ⟨v, hv, hf⟩, fun h f ⟨v, hv, hf⟩ => h v hv f hf⟩

@[simp] theorem avoids_record {fs : List (String × Value)} :
    (record fs).Avoids names ↔ ∀ f ∈ fs, f.2.Avoids names := by
  simp only [Avoids, functions, functionsOfFields_eq, List.mem_flatMap]
  exact ⟨fun h v hv f hf => h f ⟨v, hv, hf⟩, fun h f ⟨v, hv, hf⟩ => h v hv f hf⟩

theorem avoids_nil (v : Value) : v.Avoids [] := by
  intro f hf
  cases f with
  | binding path => simp [Func.Avoids, Outside]
  | builtin name => trivial
  | library path => trivial

inductive Scalar : Value → Prop
  | int (n : Int64) : Scalar (int n)
  | float (x : Float) : Scalar (float x)
  | bool (b : Bool) : Scalar (bool b)

theorem Scalar.avoids {v : Value} (h : v.Scalar) : v.Avoids names := by
  cases h with
  | int n => exact avoids_int n
  | float x => exact avoids_float x
  | bool b => exact avoids_bool b

theorem gives_ofInt (n : Int) : Gives Scalar (ofInt n) := by
  unfold ofInt
  split
  · exact .ok (.int _)
  · exact .error _

theorem gives_neg (v : Value) : Gives Scalar v.neg := by
  cases v with
  | int n => exact gives_ofInt _
  | float x => exact .ok (.float _)
  | _ => exact .error _

theorem gives_not (v : Value) : Gives Scalar v.not := by
  cases v with
  | bool b => exact .ok (.bool _)
  | _ => exact .error _

theorem gives_intArith (op : BinaryOp) (a b : Int) : Gives Scalar (intArith op a b) := by
  cases op with
  | add | sub | mul => exact gives_ofInt _
  | div =>
    by_cases hb : b = 0
    · simpa [intArith, hb] using Gives.error _
    · simpa [intArith, hb] using gives_ofInt _
  | rem =>
    by_cases hb : b = 0
    · simpa [intArith, hb] using Gives.error _
    · simpa [intArith, hb] using Gives.read fun _ => gives_ofInt _
  | _ => exact .error _

theorem gives_floatArith (op : BinaryOp) (x y : Float) : Gives Scalar (floatArith op x y) := by
  have hs (z : Float) : Gives Scalar
      (if y == 0.0 then .error .divisionByZero else .ok (float z)) := by
    split
    · exact .error _
    · exact .ok (.float _)
  cases op with
  | add | sub | mul => exact .ok (.float _)
  | div | rem => exact hs _
  | _ => exact .error _

theorem gives_arith {op : BinaryOp} {a b : Value} (ha : a.Avoids names) (hb : b.Avoids names) :
    Gives (Avoids names) (arith op a b) := by
  unfold arith
  split
  · exact (gives_intArith _ _ _).imp fun _ => Scalar.avoids
  · exact .ok (avoids_str _)
  · refine .ok (avoids_list.2 fun v hv => ?_)
    rcases List.mem_append.1 hv with hv | hv
    · exact avoids_list.1 ha v hv
    · exact avoids_list.1 hb v hv
  · split
    · exact (gives_floatArith _ _ _).imp fun _ => Scalar.avoids
    · exact .error _

theorem gives_binary {op : BinaryOp} {a b : Value} (ha : a.Avoids names) (hb : b.Avoids names) :
    Gives (Avoids names) (binary op a b) := by
  cases op with
  | eq | ne => exact .ok (avoids_bool _)
  | lt | le | gt | ge => exact .read fun _ => .ok (avoids_bool _)
  | _ => exact gives_arith ha hb

theorem gives_field {v : Value} (h : v.Avoids names) (name : String) :
    Gives (Avoids names) (v.field name) := by
  cases v with
  | record fs =>
    unfold field
    dsimp only
    split
    next n w hw =>
      have hm := List.mem_of_find?_eq_some hw
      exact .ok (avoids_record.1 h (n, w) hm)
    · exact .error _
  | _ => exact .error _

theorem gives_fields {v : Value} (h : v.Avoids names) (path : List String) :
    Gives (Avoids names) (path.foldlM field v) := by
  induction path generalizing v with
  | nil => exact .ok h
  | cons n ns ih =>
    rw [List.foldlM_cons]
    exact (gives_field h n).bind fun w hw => ih hw

theorem gives_index {v i : Value} (h : v.Avoids names) : Gives (Avoids names) (v.index i) := by
  unfold index
  split
  · split
    · exact .error _
    · split
      next w hw =>
        have hm := List.mem_of_getElem? hw
        exact .ok (avoids_list.1 h w hm)
      · exact .error _
  · exact gives_field h _
  · exact .error _

end Value

end Tether
