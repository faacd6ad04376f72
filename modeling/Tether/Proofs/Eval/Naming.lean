import Tether.Proofs.Eval.Comparison
import Tether.Proofs.Eval.Validate

/-! What is named and what its name stands for. The fields of a block that is read as a record are
what the longer paths evaluate to (`evaluate_field`), and the text of a value evaluates to what its
name does (`evaluate_text`). The longer path and the text need one level of nesting less, so that
more levels changing nothing else is what carries both. -/
namespace Tether.Document
open Evaluator
open Text (dotted)

variable {d : Document} {path : List String} {name : String}

theorem fields_of_mapM (valueOf : String → Result Value) {es : List Binding}
    {fs : List (String × Value)}
    (h : (es.mapM fun b => do return (b.name, ← valueOf b.name)) = .ok fs) :
    fs.map Prod.fst = es.map Binding.name ∧ ∀ f ∈ fs, valueOf f.1 = .ok f.2 := by
  induction es generalizing fs with
  | nil =>
    cases h
    simp
  | cons b bs ih =>
    rw [List.mapM_cons] at h
    obtain ⟨f, hf, h⟩ := bind_eq_ok.1 h
    obtain ⟨gs, hgs, h⟩ := bind_eq_ok.1 h
    obtain ⟨v, hv, hf⟩ := bind_eq_ok.1 hf
    cases h
    cases hf
    obtain ⟨hn, hw⟩ := ih hgs
    exact ⟨by simp [hn], List.forall_mem_cons.2 ⟨hv, hw⟩⟩

/-- The first of the levels is taken up by the binding itself. -/
theorem valueAt_eq : d.valueAt path = valueOf d (some (reach d (maxDepth - 1))) path := rfl

theorem fields_of_valueAt {es : List Binding} {v : Value}
    (hb : d.resolve? path = some (.block name es)) (hv : d.valueAt path = .ok v) :
    ∃ fs, v = .record fs ∧ fs.map Prod.fst = es.map Binding.name ∧
      ∀ f ∈ fs, (reach d (maxDepth - 1)).valueOf (path ++ [f.1]) = .ok f.2 := by
  simp only [valueAt_eq, valueOf, hb, enter] at hv
  obtain ⟨fs, hfs, hv⟩ := bind_eq_ok.1 hv
  cases hv
  exact ⟨fs, rfl, fields_of_mapM (fun n => (reach d (maxDepth - 1)).valueOf (path ++ [n])) hfs⟩

theorem valueAt_of_valueOf {v : Value} (hv : (reach d (maxDepth - 1)).valueOf path = .ok v) :
    d.valueAt path = .ok v := by
  have hl : maxDepth - 1 ≤ maxDepth := by decide
  have hx : ∀ m, (reach d (maxDepth - 1)).valueOf path ≠ .error (.recursionLimit m) := by simp [hv]
  rw [valueAt, ← valueOf_mono hl hx, hv]

theorem exists_of_valueAt {v : Value} (hv : d.valueAt path = .ok v) :
    ∃ b, d.resolve? path = some b := by
  cases hb : d.resolve? path with
  | none => simp [valueAt_eq, valueOf, hb] at hv
  | some b => exact ⟨b, rfl⟩

/-- A path of a block evaluates to a record of all that is bound there, in order, and each field is
what the path with its name behind it evaluates to. -/
theorem evaluate_field {src : String} (h : parse src = .ok d) {es : List Binding}
    (hb : d.resolve? path = some (.block name es)) (ht : path.head? ≠ some "true")
    (hf : path.head? ≠ some "false") {v : Value} (hv : d.evaluate (dotted path) = .ok v) :
    ∃ fs, v = .record fs ∧ fs.map Prod.fst = es.map Binding.name ∧
      ∀ f ∈ fs, d.evaluate (dotted (path ++ [f.1])) = .ok f.2 := by
  have hd := valid_of_parse h
  rw [evaluate_dotted hd hb ht hf] at hv
  obtain ⟨fs, rfl, hn, hw⟩ := fields_of_valueAt hb hv
  refine ⟨fs, rfl, hn, fun f hm => ?_⟩
  have hat := valueAt_of_valueOf (hw f hm)
  obtain ⟨c, hc⟩ := exists_of_valueAt hat
  have hh : (path ++ [f.1]).head? = path.head? := by
    cases path with
    | nil => cases hb
    | cons m ms => rfl
  rw [evaluate_dotted hd hc (hh ▸ ht) (hh ▸ hf), hat]

/-- A block with a function and a block of its own, whose value is taken from outside. -/
theorem evaluate_field_nested : ∃ d fs,
    parse "b \x7b\n f a = a\n c \x7b\n y = k\n \x7d\n\x7d\nk = 2" = .ok d ∧
      d.evaluate "b" = .ok (.record fs) ∧ fs.map Prod.fst = ["f", "c"] ∧
      ∀ f ∈ fs, d.evaluate (dotted ["b", f.1]) = .ok f.2 := by
  obtain ⟨d, fs, h, hb, hv⟩ : ∃ d fs,
      parse "b \x7b\n f a = a\n c \x7b\n y = k\n \x7d\n\x7d\nk = 2" = .ok d ∧
        d.resolve? ["b"] = some (.block "b" [.leaf "f" [⟨"a", false⟩] ⟨"a", .path ["a"]⟩,
          .block "c" [.leaf "y" [] ⟨"k", .path ["k"]⟩]]) ∧
        d.evaluate "b" = .ok (.record fs) :=
    ⟨⟨[.block "b" [.leaf "f" [⟨"a", false⟩] ⟨"a", .path ["a"]⟩,
        .block "c" [.leaf "y" [] ⟨"k", .path ["k"]⟩]], .leaf "k" [] ⟨"2", .int 2⟩]⟩,
      [("f", .func (.binding ["b", "f"])), ("c", .record [("y", .int 2)])],
      by cbv, by rfl, by cbv⟩
  obtain ⟨gs, hg, hf⟩ := evaluate_field h hb (by decide) (by decide) hv
  cases hg
  exact ⟨d, fs, h, hv, hf⟩

theorem dotted_singleton (name : String) : dotted [name] = name := by
  simp [dotted, Text.join]

/-- The text of a value outside all blocks evaluates to what its name does. -/
theorem evaluate_text {src : String} (h : parse src = .ok d) {source : Source}
    (hb : .leaf name [] source ∈ d.bindings) (ht : name ≠ "true") (hf : name ≠ "false")
    (hl : ∀ m, d.evaluate name ≠ .error (.recursionLimit m)) :
    d.evaluate source.text = d.evaluate name := by
  have hd := valid_of_parse h
  have hr : d.resolve? [name] = some (.leaf name [] source) :=
    (find?_eq_some_iff hd.distinct).2 ⟨hb, rfl⟩
  have hs : source.Valid := by
    cases hd.valid _ hb with
    | leaf hn hp hs => exact hs
  have hname : d.evaluate name = eval d (reach d (maxDepth - 1)) ⟨[], []⟩ source.expr := by
    have he := evaluate_dotted hd hr (by simpa using ht) (by simpa using hf)
    have hv : d.valueAt [name] = eval d (reach d (maxDepth - 1)) ⟨[], []⟩ source.expr := by
      simp [valueAt_eq, valueOf, hr, enter]
    rwa [dotted_singleton, hv] at he
  have htext : d.evaluate source.text = eval d (reach d maxDepth) ⟨[], []⟩ source.expr := by
    rw [evaluate, Text.trim_eq_self hs.trimmed, hs.parsed]
  rw [hname] at hl
  have hm : maxDepth - 1 ≤ maxDepth := by decide
  rw [hname, htext, eval_mono hm hl]

/-- A value that is computed from one in a block that is declared later. -/
theorem evaluate_text_later : ∃ d, parse "a = b.x + 1\nb \x7b\n x = 2\n\x7d" = .ok d ∧
    d.evaluate "b.x + 1" = d.evaluate "a" ∧ d.evaluate "a" = .ok (.int 3) := by
  obtain ⟨d, h, hb, hv⟩ : ∃ d, parse "a = b.x + 1\nb \x7b\n x = 2\n\x7d" = .ok d ∧
      .leaf "a" [] ⟨"b.x + 1", .binary .add (.path ["b", "x"]) (.int 1)⟩ ∈ d.bindings ∧
      d.evaluate "a" = .ok (.int 3) :=
    ⟨⟨[.leaf "a" [] ⟨"b.x + 1", .binary .add (.path ["b", "x"]) (.int 1)⟩,
      .block "b" [.leaf "x" [] ⟨"2", .int 2⟩]]⟩, by cbv, by simp, by cbv⟩
  have ht := evaluate_text h hb (by decide) (by decide) (by simp [hv])
  exact ⟨d, h, ht, hv⟩

end Tether.Document
