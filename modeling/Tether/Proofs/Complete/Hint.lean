import Tether.Proofs.Complete.Candidate
import Tether.Proofs.Complete.Signature
import Tether.Proofs.Eval.Naming

/-! A signature with parameters is that of the function its name evaluates to, and shows how many
arguments it takes, unless a binding hides the function: `evaluate_of_signature`. -/
namespace Tether
open Evaluator
open Text (segments dotted)

/-- Applying a function looks at the number of its arguments first, and goes on with those that the
arity accepts. -/
structure Evaluator.Checks (d : Document) (f : Func) (a : Arity) : Prop where
  rejected : ∀ lower args, a.accepts args.length = false →
    call d lower f args = .error (.arity f.name a args.length)
  accepted : ∀ args, a.accepts args.length → ∃ body, ∀ lower,
    call d lower f args = enter f.name lower body

namespace Evaluator
variable {d : Document}

theorem call_of_accepts {path : List String} {name : String} {ps : List Param} {source : Source}
    (h : d.resolve? path = some (.leaf name ps source)) {args : List Value}
    (ha : (paramArity ps).accepts args.length) (lower : Option Reach) :
    call d lower (.binding path) args = enter (Text.dotted path) lower fun r =>
      eval d r ⟨path.dropLast, bindParams ps args⟩ source.expr := by
  simp only [call, callBinding, h, ha, if_true]

theorem checks_binding {path : List String} {name : String} {ps : List Param} {source : Source}
    (h : d.resolve? path = some (.leaf name ps source)) :
    Checks d (.binding path) (paramArity ps) where
  rejected lower args ha := by simp [call, callBinding, h, ha, Func.name]
  accepted args ha := ⟨_, call_of_accepts h ha⟩

theorem checks_native {func : Func} {f : Native}
    (h : ∀ lower args, call d lower func args = callNative lower func.name f args) :
    Checks d func f.type.arity where
  rejected lower args ha := by
    rw [h]
    exact if_neg (Bool.eq_false_iff.1 ha)
  accepted args ha := ⟨fun r => f.run r.call args, fun lower => by
    rw [h]
    exact if_pos ha⟩

theorem checks_builtin {name : String} {f : Native} (h : Builtin.find? name = some f) :
    Checks d (.builtin name) f.type.arity :=
  checks_native fun lower args => by simp only [call, h, Func.name]

theorem checks_library {path : String} {f : Native}
    (h : Library.find? path = some (.function f)) : Checks d (.library path) f.type.arity :=
  checks_native fun lower args => by simp only [call, h, Func.name]

end Evaluator

namespace Complete.Signature

def arity (s : Signature) : Arity :=
  if s.params.getLast?.any isVariadic then .atLeast (s.params.length - 1)
  else .exactly s.params.length

theorem isVariadic_dots (label : String) : isVariadic ("..." ++ label) := by
  simp [isVariadic]

def label (name : String) (kind : ParamKind) (i : Nat) : String :=
  (betterNames.lookup (name, i)).getD kind.generic

theorem not_isVariadic_label (name : String) (kind : ParamKind) (i : Nat) :
    isVariadic (label name kind i) = false := by
  have hb : ∀ p ∈ betterNames, isVariadic p.2 = false := by decide
  rw [label]
  cases h : betterNames.lookup (name, i) with
  | none => cases kind <;> decide
  | some l => exact hb ((name, i), l) (mem_of_lookup h)

theorem getLast?_paramNames (name : String) (t : FnType) (kind : ParamKind)
    (h : t.params.getLast? = some kind) :
    (paramNames name t).getLast? =
      let l := label name kind (t.params.length - 1)
      some (if t.variadic then "..." ++ l else l) := by
  obtain ⟨init, hi⟩ := List.getLast?_eq_some_iff.1 h
  simp [paramNames, hi, List.zipIdx_append, label]

theorem arity_ofNative (name : String) {t : FnType} (h : t.params ≠ []) :
    (ofNative name t).arity = t.arity := by
  have hl := getLast?_paramNames name t _ (List.getLast?_eq_some_getLast h)
  have hn : (paramNames name t).length = t.params.length := by simp [paramNames]
  rw [arity, FnType.arity, ofNative, hl, hn]
  cases t.variadic with
  | false => simp [not_isVariadic_label]
  | true => simp [isVariadic_dots]

theorem isVariadic_text {p : Param} (h : isName p.name.toList) :
    isVariadic (String.ofList p.text) = p.variadic := by
  rw [isVariadic, String.toList_ofList, Param.text]
  cases p.variadic with
  | true => simp
  | false =>
    obtain ⟨c, cs, hc⟩ := List.exists_cons_of_ne_nil (ne_nil_of_isName h)
    have hd : '.' ≠ c := by
      rintro rfl
      exact not_mem_dot_of_isName h (by simp [hc])
    simp [hc, List.isPrefixOf, hd]

theorem arity_ofBinding (name : String) {ps : List Param} (h : ValidParams ps) :
    arity ⟨name, ps.map fun p => String.ofList p.text⟩ = paramArity ps := by
  rw [arity, paramArity, List.getLast?_map, List.length_map, Option.any_map]
  cases hl : ps.getLast? with
  | none => rfl
  | some p => simp [isVariadic_text (h.names p (List.mem_of_getLast? hl))]

end Complete.Signature

namespace Document
open Complete Complete.Signature
variable {d : Document} {name : String} {s : Signature}

theorem evaluate_eq_answer (hn : ∀ n ∈ segments name, isName n.toList)
    (ht : (segments name).head? ≠ some "true") (hf : (segments name).head? ≠ some "false") :
    d.evaluate name =
      answer (reach d maxDepth) (segments name) (d.lookup? (segments name)) := by
  obtain ⟨m, ms, hs⟩ := List.exists_cons_of_ne_nil (Text.segments_ne_nil name)
  have hd : dotted (m :: ms) = name := by rw [← hs, Text.dotted_segments]
  rw [hs] at hn ht hf ⊢
  have he := Expr.parse_dotted hn (by simpa using ht) (by simpa using hf)
  rw [← hd, evaluate, Text.trim_eq_self (trimmed_dotted hn), he]
  exact resolve_eq d _ (m :: ms)

/-- A binding stands where the name begins, and the name is that of no leaf. -/
def Shadows (d : Document) (name : String) : Prop :=
  d.Binds (segments name) ∧ ofBinding? d name = none

theorem ofBinding?_eq_some (h : ofBinding? d name = some s) :
    ∃ n ps source, d.resolve? (segments name) = some (.leaf n ps source) ∧
      s = ⟨name, ps.map fun p => String.ofList p.text⟩ := by
  rw [ofBinding?] at h
  split at h
  next n ps source hb =>
    cases h
    exact ⟨n, ps, source, hb, rfl⟩
  · cases h

theorem ofLibrary?_eq_some (h : ofLibrary? name = some s) :
    ∃ f, Library.find? name = some (.function f) ∧ s = ofNative name f.type := by
  rw [ofLibrary?] at h
  split at h
  next f hf =>
    cases h
    exact ⟨f, hf, rfl⟩
  · cases h

theorem isName_of_signature (hv : ValidBindings d.bindings)
    (h : (ofBinding? d name).or ((ofBuiltin? name).or (ofLibrary? name)) = some s) :
    ∀ n ∈ segments name, isName n.toList := by
  rcases Option.or_eq_some_iff.1 h with h | ⟨-, h⟩
  · obtain ⟨n, ps, source, hb, -⟩ := ofBinding?_eq_some h
    exact isName_of_resolve? hv hb
  rcases Option.or_eq_some_iff.1 h with h | ⟨-, h⟩
  · obtain ⟨f, hf, -⟩ := Option.map_eq_some_iff.1 h
    have hn := Builtin.isName_of_find? hf
    rw [Text.segments_of_not_mem (not_mem_dot_of_isName hn)]
    simpa using hn
  · obtain ⟨f, hf, -⟩ := ofLibrary?_eq_some h
    exact (Library.isName_of_find? hf).1

theorem checks_of_ofBinding? (hv : ValidBindings d.bindings) (h : ofBinding? d name = some s)
    (hp : s.params ≠ []) : ∃ f, answer (reach d maxDepth) (segments name)
      (d.lookup? (segments name)) = .ok (.func f) ∧ Checks d f s.arity := by
  obtain ⟨n, ps, source, hb, rfl⟩ := ofBinding?_eq_some h
  cases valid_of_resolve? hv hb with
  | leaf _ hps _ =>
    refine ⟨.binding (segments name), ?_, ?_⟩
    · rw [lookup?_of_binds (binds_of_resolve? hb), hb]
      cases ps with
      | nil => cases hp rfl
      | cons p ps =>
        change d.valueAt (segments name) = _
        rw [valueAt_eq, valueOf, hb]
    · rw [arity_ofBinding name hps]
      exact checks_binding hb

theorem params_ne_nil_of_ofNative {t : FnType} (h : (ofNative name t).params ≠ []) :
    t.params ≠ [] := by
  rintro he
  exact h (by simp [ofNative, paramNames, he])

theorem checks_of_ofBuiltin? (h : ofBuiltin? name = some s) (hp : s.params ≠ [])
    (hb : ¬ d.Binds (segments name)) : ∃ f, answer (reach d maxDepth) (segments name)
      (d.lookup? (segments name)) = .ok (.func f) ∧ Checks d f s.arity := by
  obtain ⟨f, hf, rfl⟩ := Option.map_eq_some_iff.1 h
  have hs : segments name = [name] :=
    Text.segments_of_not_mem (not_mem_dot_of_isName (Builtin.isName_of_find? hf))
  refine ⟨.builtin name, ?_, ?_⟩
  · rw [lookup?_of_not_binds (Text.segments_ne_nil name) hb, hs]
    simp [native?, builtinAt?, hf, answer, Builtin.name_of_find? hf]
  · rw [arity_ofNative name (params_ne_nil_of_ofNative hp)]
    exact checks_builtin hf

theorem builtinAt?_segments (h : ofBuiltin? name = none) : builtinAt? (segments name) = none := by
  have hf : Builtin.find? name = none := Option.map_eq_none_iff.1 h
  cases hs : segments name with
  | nil => rfl
  | cons n ns =>
    cases ns with
    | nil =>
      have hn : n = name := by
        rw [← dotted_singleton n, ← hs, Text.dotted_segments]
      rwa [hn]
    | cons m ms => rfl

theorem checks_of_ofLibrary? (h : ofLibrary? name = some s) (hp : s.params ≠ [])
    (hn : ofBuiltin? name = none) (hb : ¬ d.Binds (segments name)) :
    ∃ f, answer (reach d maxDepth) (segments name) (d.lookup? (segments name)) = .ok (.func f) ∧
      Checks d f s.arity := by
  obtain ⟨f, hf, rfl⟩ := ofLibrary?_eq_some h
  refine ⟨.library name, ?_, ?_⟩
  · rw [lookup?_of_not_binds (Text.segments_ne_nil name) hb]
    simp [native?, builtinAt?_segments hn, Text.dotted_segments, hf, answer]
  · rw [arity_ofNative name (params_ne_nil_of_ofNative hp)]
    exact checks_library hf

/-- What a name leads to that the document shadows is a block or nothing. -/
theorem answer_of_shadows (h : d.Shadows name) (f : Func) :
    answer (reach d maxDepth) (segments name) (d.lookup? (segments name)) ≠ .ok (.func f) := by
  obtain ⟨hb, hn⟩ := h
  rw [lookup?_of_binds hb]
  cases hr : d.resolve? (segments name) with
  | none => simp [answer]
  | some b =>
    cases b with
    | leaf n ps source => simp [ofBinding?, hr] at hn
    | block n es =>
      intro hf
      obtain ⟨fs, hv, -⟩ := fields_of_valueAt hr hf
      cases hv

/-- A signature with parameters, from whatever tables, is that of the function its name evaluates
to, which takes as many arguments as the signature shows. Where the document shadows the name of a
native function with a block, or with any binding a name further up, the signature is found all the
same, but the name does not evaluate to a function. -/
theorem evaluate_of_signature {src : String} (h : parse src = .ok d) {c : Cache} (hc : c.Exact)
    (hs : (c.find? d name).1 = some s) (hp : s.params ≠ [])
    (ht : (segments name).head? ≠ some "true") (hf : (segments name).head? ≠ some "false") :
    (¬ d.Shadows name → ∃ f, d.evaluate name = .ok (.func f) ∧ Checks d f s.arity) ∧
    (d.Shadows name → ∀ f, d.evaluate name ≠ .ok (.func f)) := by
  have hv := valid_of_parse h
  rw [Cache.find?_fst hc] at hs
  rw [evaluate_eq_answer (isName_of_signature hv hs) ht hf]
  refine ⟨fun hx => ?_, fun hx f => answer_of_shadows hx f⟩
  rcases Option.or_eq_some_iff.1 hs with hs | ⟨hn, hs⟩
  · exact checks_of_ofBinding? hv hs hp
  have hb : ¬ d.Binds (segments name) := fun hb => hx ⟨hb, hn⟩
  rcases Option.or_eq_some_iff.1 hs with hs | ⟨hn, hs⟩
  · exact checks_of_ofBuiltin? hs hp hb
  · exact checks_of_ofLibrary? hs hp hn hb

/-- A variadic function in a block. -/
theorem evaluate_of_signature_variadic : ∃ d s f,
    parse "b \x7b\n f x ...ys = ys\n\x7d" = .ok d ∧ (Cache.empty.find? d "b.f").1 = some s ∧
    s.display = "b.f(x, ...ys)" ∧ d.evaluate "b.f" = .ok (.func f) ∧ Checks d f (.atLeast 1) := by
  obtain ⟨d, s, h, hb, hs, ha, hp, ht⟩ : ∃ d s, parse "b \x7b\n f x ...ys = ys\n\x7d" = .ok d ∧
      ofBinding? d "b.f" = some s ∧ (Cache.empty.find? d "b.f").1 = some s ∧
      s.arity = .atLeast 1 ∧ s.params ≠ [] ∧ s.display = "b.f(x, ...ys)" :=
    ⟨⟨[.block "b" [.leaf "f" [⟨"x", false⟩, ⟨"ys", true⟩] ⟨"ys", .path ["ys"]⟩]]⟩,
      ⟨"b.f", ["x", "...ys"]⟩, by cbv, by rfl, by rfl, by rfl, by simp, by rfl⟩
  have hx : ¬ d.Shadows "b.f" := by simp [Shadows, hb]
  obtain ⟨f, hf, hc⟩ :=
    (evaluate_of_signature h Cache.exact_empty hs hp (by decide) (by decide)).1 hx
  exact ⟨d, s, f, h, hs, ht, hf, ha ▸ hc⟩

/-- A block with the name of a builtin, whose signature is found instead. -/
theorem evaluate_of_signature_shadowed : ∃ d s, parse "join \x7b\n a = 1\n\x7d" = .ok d ∧
    (Cache.empty.find? d "join").1 = some s ∧ s.display = "join(array, separator)" ∧
    s.params ≠ [] ∧ (segments "join").head? ≠ some "true" ∧
    (segments "join").head? ≠ some "false" ∧
    d.evaluate "join" = .ok (.record [("a", .int 1)]) ∧ ∀ f, d.evaluate "join" ≠ .ok (.func f) := by
  obtain ⟨d, s, h, hs, ht, hp, hv⟩ : ∃ d s, parse "join \x7b\n a = 1\n\x7d" = .ok d ∧
      (Cache.empty.find? d "join").1 = some s ∧ s.display = "join(array, separator)" ∧
      s.params ≠ [] ∧ d.evaluate "join" = .ok (.record [("a", .int 1)]) :=
    ⟨⟨[.block "join" [.leaf "a" [] ⟨"1", .int 1⟩]]⟩, ⟨"join", ["array", "separator"]⟩, by cbv,
      by rfl, by rfl, by simp, by cbv⟩
  refine ⟨d, s, h, hs, ht, hp, by decide, by decide, hv, fun f hf => ?_⟩
  cases hv.symm.trans hf

end Document

end Tether
