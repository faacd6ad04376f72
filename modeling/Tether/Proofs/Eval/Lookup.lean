import Tether.Eval.Evaluator
import Tether.Proofs.Eval.Paths

/-! What a path leads to outside all blocks, told apart from its value: `Evaluator.resolve_eq` says
that the evaluator looks for the same. -/
namespace Tether

inductive Referent where
  | binding (b : Binding)
  | builtin (f : Native)
  /-- A function or a namespace of the library. -/
  | entry (e : Entry Native)

/-- What a path evaluates to by what it leads to. A namespace has no value. -/
def answer (r : Reach) (path : List String) : Option Referent → Result Value
  | some (.binding _) => r.valueOf path
  | some (.builtin f) => .ok (.func (.builtin f.name))
  | some (.entry (.function _)) => .ok (.func (.library (Text.dotted path)))
  | some (.entry (.group _)) => .error (.namespaceUsed (Text.dotted path))
  | none => .error (.unknownName (Text.dotted path))

def builtinAt? : List String → Option Native
  | [n] => Builtin.find? n
  | _ => none

def native? (path : List String) : Option Referent :=
  ((builtinAt? path).map .builtin).or ((Library.find? (Text.dotted path)).map .entry)

/-- What a path leads to outside all blocks. A binding of its first name hides all else. -/
def Document.lookup? (d : Document) : List String → Option Referent
  | [] => none
  | n :: ns =>
    if (d.find? n).isSome then (d.resolve? (n :: ns)).map .binding else native? (n :: ns)

namespace Evaluator

theorem inLibrary_eq (r : Reach) (path : List String) :
    nativeValue.inLibrary (Text.dotted path) =
      answer r path ((Library.find? (Text.dotted path)).map .entry) := by
  unfold nativeValue.inLibrary
  cases Library.find? (Text.dotted path) with
  | none => rfl
  | some e => cases e <;> rfl

theorem nativeValue_eq (r : Reach) (path : List String) :
    nativeValue path = answer r path (native? path) := by
  cases path with
  | nil => exact inLibrary_eq r []
  | cons n ns =>
    cases ns with
    | nil =>
      cases hf : Builtin.find? n with
      | some f => simp [nativeValue, native?, builtinAt?, hf, answer]
      | none => simpa [nativeValue, native?, builtinAt?, hf] using inLibrary_eq r [n]
    | cons m ms => exact inLibrary_eq r (n :: m :: ms)

theorem home?_nil (d : Document) (n : String) :
    d.home? [] n = if (d.find? n).isSome then some [] else none := by
  cases h : (d.find? n).isSome with
  | false => simp_all [Document.home?, Document.entriesAt, Document.find?]
  | true => simp_all [Document.home?, Document.entriesAt, Document.find?]

theorem resolve_eq (d : Document) (r : Reach) (path : List String) :
    resolve d r ⟨[], []⟩ path = answer r path (d.lookup? path) := by
  cases path with
  | nil => rfl
  | cons n ns =>
    rw [Document.lookup?]
    by_cases h : (d.find? n).isSome
    · have hh : d.home? [] n = some [] := by rw [home?_nil, if_pos h]
      simp only [resolve, List.lookup_nil, hh, List.nil_append, if_pos h]
      cases hb : d.resolve? (n :: ns) <;> simp [answer]
    · have hh : d.home? [] n = none := by rw [home?_nil, if_neg h]
      simp only [resolve, List.lookup_nil, hh, if_neg h]
      exact nativeValue_eq r (n :: ns)

end Evaluator

end Tether
