import Tether.Proofs.Complete.Candidate
import Tether.Proofs.Document.RoundTrip
import Tether.Proofs.Eval.Naming

/-! References by one name. What a document can give to a binding or a parameter are the names, and
a name as an expression refers to the parameter or the binding that has it, unless it is one of the
two truth values (`Evaluator.refers_of_isName`). -/
namespace Tether

def NamesBinding (name : String) : Prop :=
  ∃ src d, Document.parse src = .ok d ∧ ∃ b ∈ d.bindings, b.name = name

def NamesParam (name : String) : Prop :=
  ∃ src d, Document.parse src = .ok d ∧ ∃ b ∈ d.bindings, ∃ p ∈ b.params, p.name = name

section Naming
variable {name : String}

theorem valid_zero : (⟨"0", .int 0⟩ : Source).Valid :=
  ⟨Text.trimmed_singleton (by decide), by decide, by decide, by cbv⟩

theorem namesBinding_iff : NamesBinding name ↔ isName name.toList := by
  constructor
  · rintro ⟨src, d, h, b, hb, rfl⟩
    exact ((Document.valid_of_parse h).valid b hb).isName
  · intro hn
    have hv : ValidBindings [.leaf name [] ⟨"0", .int 0⟩] :=
      ⟨List.forall_mem_singleton.2 (.leaf hn .nil valid_zero), by simp⟩
    exact ⟨_, _, Document.parse_source_of_valid (d := ⟨_⟩) hv, _, List.mem_singleton_self _, rfl⟩

theorem namesParam_iff : NamesParam name ↔ isName name.toList := by
  constructor
  · rintro ⟨src, d, h, b, hb, p, hp, rfl⟩
    cases (Document.valid_of_parse h).valid b hb with
    | leaf hn hps hs => exact hps.names p hp
    | block hn hv hd => cases hp
  · intro hn
    have hp : ValidParams [⟨name, false⟩] :=
      ⟨List.forall_mem_singleton.2 hn, by simp, by simp⟩
    have hv : ValidBindings [.leaf "f" [⟨name, false⟩] ⟨"0", .int 0⟩] :=
      ⟨List.forall_mem_singleton.2 (.leaf (by decide) hp valid_zero), by simp⟩
    exact ⟨_, _, Document.parse_source_of_valid (d := ⟨_⟩) hv, _, List.mem_singleton_self _, _,
      List.mem_singleton_self _, rfl⟩

end Naming

namespace Evaluator
variable {d : Document} {block : List String} {name : String}

theorem isSome_resolve?_of_home? {around : List String} (h : d.home? around name = some block) :
    (d.resolve? (block ++ [name])).isSome := by
  have hf := List.find?_some (p := fun p => (Tether.find? name (d.entriesAt p)).isSome) h
  cases block with
  | nil => exact hf
  | cons m ms =>
    rw [Document.resolve?, resolve?_concat (List.cons_ne_nil m ms)]
    rw [Document.entriesAt, Document.resolve?] at hf
    · cases hb : Tether.resolve? d.bindings (m :: ms) with
      | none => simp [hb, Tether.find?] at hf
      | some b => simpa [hb] using hf
    · exact List.cons_ne_nil m ms

/-- In every document and at every place, the expression stands for the parameter of the name if
there is one, and else for the binding in the innermost of the blocks around that has one. -/
structure RefersTo (e : Expr) (name : String) : Prop where
  param : ∀ (d : Document) (r : Reach) (s : Scope) (v : Value),
    s.locals.lookup name = some v → eval d r s e = .ok v
  binding : ∀ (d : Document) (r : Reach) (s : Scope) (block : List String),
    s.locals.lookup name = none → d.home? s.block name = some block →
      eval d r s e = r.valueOf (block ++ [name])

theorem refersTo_path (name : String) : RefersTo (.path [name]) name where
  param d r s v h := by
    simp only [eval, resolve, h, List.foldlM_nil]
    rfl
  binding d r s block hl hb := by
    simp only [eval, resolve, hl, hb]
    exact if_pos (isSome_resolve?_of_home? hb)

theorem not_refersTo_bool (b : Bool) (name : String) : ¬ RefersTo (.bool b) name := by
  intro h
  cases h.param ⟨[]⟩ (reach ⟨[]⟩ 0) ⟨[], [(name, .int 0)]⟩ (.int 0) (by simp)

/-- Every name can be given to a binding and to a parameter, and it is an expression. That
expression is the path of the one name, and refers to what has the name, exactly if it is not a
truth value. -/
theorem refers_of_isName (h : isName name.toList) :
    NamesBinding name ∧ NamesParam name ∧ ∃ e, Expr.parse name.toList = .ok e ∧
      (e = .path [name] ↔ name ≠ "true" ∧ name ≠ "false") ∧
      (RefersTo e name ↔ name ≠ "true" ∧ name ≠ "false") := by
  refine ⟨namesBinding_iff.2 h, namesParam_iff.2 h, ?_⟩
  by_cases ht : name = "true"
  · subst ht
    exact ⟨.bool true, by cbv, by simp, by simp [not_refersTo_bool]⟩
  by_cases hf : name = "false"
  · subst hf
    exact ⟨.bool false, by cbv, by simp, by simp [not_refersTo_bool]⟩
  have hp := Expr.parse_dotted (List.forall_mem_singleton.2 h) ht hf
  rw [Document.dotted_singleton] at hp
  exact ⟨.path [name], hp, by simp [ht, hf], by simp [ht, hf, refersTo_path]⟩

/-- A name with letters beyond ASCII, a hyphen and a digit. -/
theorem refers_of_isName_hyphen : isName "été-9".toList ∧ NamesBinding "été-9" ∧
    NamesParam "été-9" ∧ Expr.parse "été-9".toList = .ok (.path ["été-9"]) ∧
    RefersTo (.path ["été-9"]) "été-9" := by
  have h : isName "été-9".toList := by decide
  have hn : "été-9" ≠ "true" ∧ "été-9" ≠ "false" := by decide
  obtain ⟨hb, hp, e, he, hpath, href⟩ := refers_of_isName h
  cases hpath.2 hn
  exact ⟨h, hb, hp, he, href.2 hn⟩

/-- A binding that is named like a truth value has its own value, but its name does not stand for
it. -/
theorem refers_of_isName_truth : ∃ d, Document.parse "true = 0" = .ok d ∧ isName "true".toList ∧
    d.valueAt ["true"] = .ok (.int 0) ∧ Expr.parse "true".toList ≠ .ok (.path ["true"]) ∧
    d.evaluate "true" = .ok (.bool true) := by
  refine ⟨⟨[.leaf "true" [] ⟨"0", .int 0⟩]⟩, by cbv, by decide, by rfl, ?_, by cbv⟩
  have hp : Expr.parse "true".toList = .ok (.bool true) := by cbv
  rw [hp]
  simp

end Evaluator

end Tether
