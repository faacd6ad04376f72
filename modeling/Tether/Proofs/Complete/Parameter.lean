import Tether.Proofs.Complete.Hint

/-! The parameter that is shown for an argument is the one the argument is bound to:
`active?_of_accepts`. -/
namespace Tether
open Complete Evaluator
open Text (dotted segments)

/-- What parameters are bound to: each one to an argument, and a variadic last one to the list of
those that are left. -/
inductive Bound : List Param → List Value → List (String × Value) → Prop
  | done : Bound [] [] []
  | rest {p : Param} {args : List Value} (hv : p.variadic) :
      Bound [p] args [(p.name, .list args)]
  | next {p : Param} {ps : List Param} {v : Value} {vs : List Value}
      {locals : List (String × Value)} (hv : p.variadic = false) (h : Bound ps vs locals) :
      Bound (p :: ps) (v :: vs) ((p.name, v) :: locals)

/-- The argument `i` is given to the parameter at an index: it is its value, or stands in the list of
a variadic one, behind the arguments that stand there before it. -/
inductive Given (ps : List Param) (args : List Value) (locals : List (String × Value)) (i : Nat) :
    Nat → Prop
  | itself {p : Param} {v : Value} (hp : ps[i]? = some p) (hv : p.variadic = false)
      (ha : args[i]? = some v) (hl : locals.lookup p.name = some v) : Given ps args locals i i
  | listed {j : Nat} {p : Param} {v : Value} {vs : List Value} (hp : ps[j]? = some p)
      (hv : p.variadic) (ha : args[i]? = some v) (hl : locals.lookup p.name = some (.list vs))
      (hj : j ≤ i) (he : vs[i - j]? = some v) : Given ps args locals i j

section Params
variable {p : Param} {ps : List Param}

theorem ValidParams.tail (h : ValidParams (p :: ps)) : ValidParams ps where
  names q hq := h.names q (List.mem_cons_of_mem p hq)
  distinct := (List.nodup_cons.1 h.distinct).2
  variadic q hq := by
    cases ps with
    | nil => cases hq
    | cons q' qs => exact h.variadic q (List.mem_cons_of_mem p hq)

theorem ValidParams.eq_nil (h : ValidParams (p :: ps)) (hv : p.variadic) : ps = [] := by
  cases ps with
  | nil => rfl
  | cons q qs =>
    have hf := h.variadic p (by simp)
    rw [hv] at hf
    cases hf

theorem accepts_cons (hv : p.variadic = false) {n : Nat} :
    (paramArity (p :: ps)).accepts n ↔ ∃ m, n = m + 1 ∧ (paramArity ps).accepts m := by
  cases ps with
  | nil => simp [paramArity, Arity.accepts, hv]
  | cons q qs =>
    rw [paramArity, paramArity, List.getLast?_cons_cons]
    split
    all_goals
      simp only [Arity.accepts, List.length_cons, decide_eq_true_eq]
      constructor
      · intro h
        exact ⟨n - 1, by omega, by omega⟩
      · rintro ⟨m, rfl, h⟩
        omega

theorem bindParams_of_variadic (hv : p.variadic) (args : List Value) :
    bindParams (p :: ps) args = [(p.name, .list args)] := by
  rw [bindParams.eq_def]
  exact if_pos hv

theorem bound_bindParams (h : ValidParams ps) {args : List Value}
    (ha : (paramArity ps).accepts args.length) : Bound ps args (bindParams ps args) := by
  induction ps generalizing args with
  | nil =>
    have hn : args = [] := by simpa [paramArity, Arity.accepts] using ha
    rw [hn]
    exact .done
  | cons p ps ih =>
    cases hv : p.variadic with
    | true =>
      obtain rfl := h.eq_nil hv
      rw [bindParams_of_variadic hv]
      exact .rest hv
    | false =>
      obtain ⟨m, hm, hs⟩ := (accepts_cons hv).1 ha
      obtain ⟨v, vs, rfl⟩ := List.exists_cons_of_length_eq_add_one hm
      rw [bindParams, hv, if_neg Bool.false_ne_true]
      exact .next hv (ih h.tail (by simpa [← Nat.succ.inj hm] using hs))

/-- Arguments that are assigned one after the other stand the other way round. -/
theorem foldl_assign (h : ∀ p ∈ ps, p.variadic = false) (args : List Value)
    (rest : List (String × Value)) :
    (ps.zip args).foldl (fun locals (p, v) => if p.variadic then locals else (p.name, v) :: locals)
      rest = (List.zip (ps.map Param.name) args).reverse ++ rest := by
  induction ps generalizing args rest with
  | nil => rfl
  | cons p ps ih =>
    rw [List.forall_mem_cons] at h
    cases args with
    | nil => rfl
    | cons v vs =>
      rw [List.zip_cons_cons, List.foldl_cons, ih h.2]
      simp [h.1]

theorem assignments_of_not_variadic (h : ∀ p ∈ ps, p.variadic = false) (args : List Value) :
    assignments ps args = (List.zip (ps.map Param.name) (args.take ps.length)).reverse := by
  have hl : ps.getLast?.any (·.variadic) = false := by
    cases hp : ps.getLast? with
    | none => rfl
    | some p => exact h p (List.mem_of_getLast? hp)
  simp [assignments, hl, foldl_assign h]

theorem assignments_concat (h : ∀ p ∈ ps, p.variadic = false) (hv : p.variadic) {args : List Value}
    (hl : ps.length ≤ args.length) : assignments (ps ++ [p]) args =
      (List.zip (ps.map Param.name) (args.take ps.length)).reverse ++
        [(p.name, .list (args.drop ps.length))] := by
  have ht : ps.length = (args.take ps.length).length := by rw [List.length_take, Nat.min_eq_left hl]
  have hz : (ps ++ [p]).zip (args.take ps.length) = ps.zip (args.take ps.length) := by
    conv_lhs => rw [← List.append_nil (args.take ps.length), List.zip_append ht]
    rw [List.zip_nil_right, List.append_nil]
  rw [← foldl_assign h, ← hz]
  simp [assignments, hv]

theorem bindParams_append (h : ∀ p ∈ ps, p.variadic = false) {args : List Value}
    (hl : ps.length ≤ args.length) (qs : List Param) : bindParams (ps ++ qs) args =
      List.zip (ps.map Param.name) (args.take ps.length) ++ bindParams qs (args.drop ps.length) := by
  induction ps generalizing args with
  | nil => rfl
  | cons p ps ih =>
    rw [List.forall_mem_cons] at h
    cases args with
    | nil => cases hl
    | cons v vs =>
      rw [List.cons_append, bindParams, h.1, if_neg Bool.false_ne_true,
        ih h.2 (Nat.le_of_succ_le_succ hl)]
      rfl

theorem perm_assignments (h : ValidParams ps) {args : List Value}
    (ha : (paramArity ps).accepts args.length) :
    (assignments ps args).Perm (bindParams ps args) := by
  obtain rfl | ⟨qs, p, rfl⟩ := List.eq_nil_or_concat' ps
  · exact .refl _
  have hq : ∀ q ∈ qs, q.variadic = false := by simpa using h.variadic
  cases hv : p.variadic with
  | true =>
    have hl : qs.length ≤ args.length := by simpa [paramArity, Arity.accepts, hv] using ha
    rw [assignments_concat hq hv hl, bindParams_append hq hl, bindParams_of_variadic hv]
    exact (List.reverse_perm _).append_right _
  | false =>
    have hall : ∀ q ∈ qs ++ [p], q.variadic = false := by simpa [or_imp, forall_and, hv] using hq
    have hl : args.length = (qs ++ [p]).length := by
      simpa [paramArity, Arity.accepts, hv] using ha
    have hb := bindParams_append hall hl.ge []
    rw [List.append_nil, bindParams, List.append_nil] at hb
    rw [assignments_of_not_variadic hall, hb]
    exact List.reverse_perm _

end Params

section Bound
variable {ps : List Param} {args : List Value} {locals : List (String × Value)}

theorem Bound.names (h : Bound ps args locals) : locals.map Prod.fst = ps.map Param.name := by
  induction h with
  | done => rfl
  | rest => rfl
  | next _ _ ih => rw [List.map_cons, List.map_cons, ih]

/-- Where an argument is found: as that of a parameter, or among those that are left for the last
one. -/
theorem Bound.exists_param (h : Bound ps args locals) {i : Nat} {v : Value} (hi : args[i]? = some v) :
    ∃ j p, ps[j]? = some p ∧
      (p.variadic = false ∧ j = i ∧ (p.name, v) ∈ locals ∨
        p.variadic ∧ j ≤ i ∧ j + 1 = ps.length ∧ (p.name, .list (args.drop j)) ∈ locals) := by
  induction h generalizing i with
  | done => cases hi
  | @rest p args hv => exact ⟨0, p, rfl, .inr ⟨hv, Nat.zero_le i, rfl, by simp⟩⟩
  | @next p ps w ws locals hv _ ih =>
    cases i with
    | zero =>
      cases hi
      exact ⟨0, p, rfl, .inl ⟨hv, rfl, by simp⟩⟩
    | succ i =>
      obtain ⟨j, q, hq, h⟩ := ih (i := i) hi
      refine ⟨j + 1, q, hq, h.imp ?_ ?_⟩
      · rintro ⟨hv, rfl, hm⟩
        exact ⟨hv, rfl, List.mem_cons_of_mem _ hm⟩
      · rintro ⟨hv, hj, hl, hm⟩
        exact ⟨hv, by omega, by simp [hl], List.mem_cons_of_mem _ hm⟩

end Bound

/-- A call finds its arguments as they were assigned. -/
theorem lookup_assignments {ps : List Param} (h : ValidParams ps) {args : List Value}
    (ha : (paramArity ps).accepts args.length) (n : String) :
    (assignments ps args).lookup n = (bindParams ps args).lookup n := by
  have hp := perm_assignments h ha
  have hd : ((bindParams ps args).map Prod.fst).Nodup := (bound_bindParams h ha).names ▸ h.distinct
  have hd' : ((assignments ps args).map Prod.fst).Nodup := (hp.map Prod.fst).nodup_iff.2 hd
  ext v
  rw [lookup_eq_some_iff hd, lookup_eq_some_iff hd', hp.mem_iff]

namespace Complete.Signature
variable {name : String} {ps : List Param} {p : Param} {i j : Nat}

/-- What is shown goes by the last parameter, once its name is read again. -/
theorem active?_ofParams (hn : ∀ p ∈ ps, isName p.name.toList) (hl : ps.getLast? = some p) (i : Nat) :
    active? ⟨name, ps.map fun p => String.ofList p.text⟩ i =
      if ps.length - 1 ≤ i && p.variadic then some (ps.length - 1)
      else if i < ps.length then some i else none := by
  simp only [active?, List.getLast?_map, hl, Option.map_some, List.length_map,
    isVariadic_text (hn p (List.mem_of_getLast? hl))]

theorem active?_of_not_variadic (hn : ∀ p ∈ ps, isName p.name.toList) (hp : ps[i]? = some p)
    (hv : p.variadic = false) :
    active? ⟨name, ps.map fun p => String.ofList p.text⟩ i = some i := by
  obtain ⟨hi, -⟩ := List.getElem?_eq_some_iff.1 hp
  have hl : ps.getLast? = some ps[ps.length - 1] :=
    List.getLast?_eq_getElem?.trans (List.getElem?_eq_getElem (by omega))
  rw [active?_ofParams hn hl, if_pos hi, if_neg]
  simp only [Bool.and_eq_true, decide_eq_true_eq]
  rintro ⟨hle, hq⟩
  obtain rfl : i = ps.length - 1 := by omega
  rw [← List.getLast?_eq_getElem?, hl] at hp
  cases hp
  rw [hv] at hq
  cases hq

theorem active?_of_variadic (hn : ∀ p ∈ ps, isName p.name.toList) (hp : ps[j]? = some p)
    (hv : p.variadic) (hl : j + 1 = ps.length) (hi : j ≤ i) :
    active? ⟨name, ps.map fun p => String.ofList p.text⟩ i = some j := by
  obtain rfl : j = ps.length - 1 := by omega
  rw [active?_ofParams hn (List.getLast?_eq_getElem?.trans hp), if_pos (by simp [hv, hi])]

end Complete.Signature

namespace Document
open Signature
variable {d : Document} {path : List String} {n : String} {ps : List Param} {source : Source}

theorem ofBinding?_dotted (hv : ValidBindings d.bindings)
    (hb : d.resolve? path = some (.leaf n ps source)) :
    ofBinding? d (dotted path) = some ⟨dotted path, ps.map fun p => String.ofList p.text⟩ := by
  have hn := isName_of_resolve? hv hb
  have hs : segments (dotted path) = path := by
    refine Text.segments_dotted (fun n hm => not_mem_dot_of_isName (hn n hm)) ?_
    rintro rfl
    cases hb
  rw [ofBinding?, hs, hb]

/-- A binding that is called with a number of arguments that it takes evaluates its body with every
parameter bound once, and for each argument its signature shows the parameter that the argument is
given to. -/
theorem active?_of_accepts {src : String} (h : parse src = .ok d)
    (hb : d.resolve? path = some (.leaf n ps source)) {args : List Value}
    (ha : (paramArity ps).accepts args.length) :
    ∃ s locals, ofBinding? d (dotted path) = some s ∧
      (∀ lower, call d lower (.binding path) args =
        enter (dotted path) lower fun r => eval d r ⟨path.dropLast, locals⟩ source.expr) ∧
      locals.map Prod.fst = ps.map Param.name ∧ (ps.map Param.name).Nodup ∧
      ∀ i < args.length, ∃ j, s.active? i = some j ∧ Given ps args locals i j := by
  have hv := valid_of_parse h
  cases valid_of_resolve? hv hb with
  | leaf _ hp _ =>
    have hx := bound_bindParams hp ha
    have hd : ((bindParams ps args).map Prod.fst).Nodup := hx.names ▸ hp.distinct
    refine ⟨_, bindParams ps args, ofBinding?_dotted hv hb, call_of_accepts hb ha, hx.names,
      hp.distinct, fun i hi => ?_⟩
    have hi := List.getElem?_eq_getElem hi
    generalize args[i] = v at hi
    obtain ⟨j, p, hj, ⟨hf, rfl, hm⟩ | ⟨ht, hle, hl, hm⟩⟩ := hx.exists_param hi
    · exact ⟨j, active?_of_not_variadic hp.names hj hf,
        .itself hj hf hi ((lookup_eq_some_iff hd).2 hm)⟩
    · refine ⟨j, active?_of_variadic hp.names hj ht hl hle,
        .listed hj ht hi ((lookup_eq_some_iff hd).2 hm) hle ?_⟩
      rw [List.getElem?_drop, Nat.add_sub_cancel' hle, hi]

/-- Two arguments are left for the last parameter of a function in a block. -/
theorem active?_of_accepts_variadic : ∃ d ps source s locals,
    parse "b \x7b\n f x ...ys = ys\n\x7d" = .ok d ∧
    d.resolve? ["b", "f"] = some (.leaf "f" ps source) ∧
    (paramArity ps).accepts [Value.int 1, .int 2, .int 3].length ∧ ofBinding? d "b.f" = some s ∧
    s.params = ["x", "...ys"] ∧ locals.map Prod.fst = ["x", "ys"] ∧ s.active? 2 = some 1 ∧
    Given ps [.int 1, .int 2, .int 3] locals 2 1 := by
  obtain ⟨d, ps, source, s, h, hb, ha, hs, hp, hn⟩ : ∃ d ps source s,
      parse "b \x7b\n f x ...ys = ys\n\x7d" = .ok d ∧
      d.resolve? ["b", "f"] = some (.leaf "f" ps source) ∧
      (paramArity ps).accepts [Value.int 1, .int 2, .int 3].length ∧
      ofBinding? d "b.f" = some s ∧ s.params = ["x", "...ys"] ∧ ps.map Param.name = ["x", "ys"] :=
    ⟨⟨[.block "b" [.leaf "f" [⟨"x", false⟩, ⟨"ys", true⟩] ⟨"ys", .path ["ys"]⟩]]⟩,
      [⟨"x", false⟩, ⟨"ys", true⟩], ⟨"ys", .path ["ys"]⟩, ⟨"b.f", ["x", "...ys"]⟩, by cbv, by rfl,
      by decide, by rfl, rfl, rfl⟩
  obtain ⟨s', locals, hs', -, hl, -, hg⟩ := active?_of_accepts h hb ha
  obtain rfl := Option.some.inj (hs.symm.trans hs')
  obtain ⟨j, hj, hg⟩ := hg 2 (by decide)
  have hi : s.active? 2 = some 1 := by
    rw [active?, hp]
    decide
  obtain rfl := Option.some.inj (hi.symm.trans hj)
  exact ⟨d, ps, source, s, locals, h, hb, ha, hs, hp, hl.trans hn, hi, hg⟩

end Document

end Tether
