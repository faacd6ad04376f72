import Tether.Expr.Basic
import Tether.Native.Builtin
import Tether.Proofs.Native.Tree

/-! The names of the builtins and of the library can stand in paths (`Builtin.isName_of_find?`,
`Library.isName_of_find?`), and a builtin is found by its own name (`Builtin.name_of_find?`). -/
namespace Tether

namespace Entry
variable {α : Type}

mutual

/-- The names in a namespace, at any depth; a function has none inside. -/
def names : Entry α → List String
  | function _ => []
  | group es => namesIn es

def namesIn : List (String × Entry α) → List String
  | [] => []
  | (n, e) :: es => n :: (e.names ++ namesIn es)

end

variable {es gs : List (String × Entry α)} {e : Entry α} {n m : String} {path : List String}

theorem mem_namesIn (h : (n, e) ∈ es) : n ∈ namesIn es ∧ ∀ m ∈ e.names, m ∈ namesIn es := by
  induction es with
  | nil => cases h
  | cons b bs ih =>
    obtain ⟨k, e'⟩ := b
    rcases List.mem_cons.1 h with he | he
    · cases he
      exact ⟨List.mem_cons_self, fun m hm =>
        List.mem_cons_of_mem n (List.mem_append_left (namesIn bs) hm)⟩
    · obtain ⟨hn, hi⟩ := ih he
      have hb : ∀ m ∈ namesIn bs, m ∈ namesIn ((k, e') :: bs) := fun m hm =>
        List.mem_cons_of_mem k (List.mem_append_right e'.names hm)
      exact ⟨hb n hn, fun m hm => hb m (hi m hm)⟩

theorem mem_namesIn_of_at? (h : at? es path = some e) :
    (∀ m ∈ path, m ∈ namesIn es) ∧ ∀ m ∈ e.names, m ∈ namesIn es := by
  induction path generalizing es with
  | nil => cases h
  | cons n ns ih =>
    cases ns with
    | nil =>
      obtain ⟨hn, hi⟩ := mem_namesIn (mem_of_lookup h)
      exact ⟨by simpa using hn, hi⟩
    | cons k ks =>
      rw [at?] at h
      split at h
      next es' hl =>
        obtain ⟨hn, hi⟩ := mem_namesIn (mem_of_lookup hl)
        obtain ⟨hp, he⟩ := ih h
        exact ⟨List.forall_mem_cons.2 ⟨hn, fun m hm => hi m (hp m hm)⟩,
          fun m hm => hi m (he m hm)⟩
      · cases h

theorem at?_concat (hp : path ≠ []) (h : at? es path = some (group gs)) :
    at? es (path ++ [n]) = gs.lookup n := by
  induction path generalizing es with
  | nil => cases hp rfl
  | cons m ms ih =>
    cases ms with
    | nil =>
      change es.lookup m = _ at h
      simp [at?, h]
    | cons k ks =>
      rw [at?] at h
      split at h
      next es' hl =>
        have hk := ih (List.cons_ne_nil k ks) h
        rw [List.cons_append, List.cons_append, at?, hl]
        exact hk
      · cases h

end Entry

namespace Builtin

theorem isName_of_mem : ∀ f ∈ table, isName f.name.toList := by decide

theorem name_of_find? {name : String} {f : Native} (h : find? name = some f) : f.name = name := by
  simpa using List.find?_some h

theorem isName_of_find? {name : String} {f : Native} (h : find? name = some f) :
    isName name.toList := by
  rw [← name_of_find? h]
  exact isName_of_mem f (List.mem_of_find?_eq_some h)

end Builtin

namespace Library

theorem isName_of_mem : ∀ n ∈ Entry.namesIn tree, isName n.toList := by decide

theorem isName_of_find? {path : String} {e : Entry Native} (h : find? path = some e) :
    (∀ n ∈ Text.segments path, isName n.toList) ∧ ∀ n ∈ e.names, isName n.toList := by
  obtain ⟨hp, he⟩ := Entry.mem_namesIn_of_at? h
  exact ⟨fun n hn => isName_of_mem n (hp n hn), fun n hn => isName_of_mem n (he n hn)⟩

theorem valid_tree : (Entry.group tree).Valid := by
  refine .group (by decide) (by decide) ?_
  simp only [tree, List.forall_mem_cons, List.not_mem_nil, false_imp_iff, implies_true, and_true]
  refine ⟨.group (by decide) (by decide) ?_, .group (by decide) (by decide) ?_,
    .group (by decide) (by decide) ?_⟩
  · simp [Entry.Valid.function]
  · simp [Entry.Valid.function]
  · -- one more namespace stands before the functions
    refine List.forall_mem_cons.2 ⟨.group (by decide) (by decide) ?_, ?_⟩
    · simp [Entry.Valid.function]
    · simp [Entry.Valid.function]

theorem mem_functions {path : String} {f : Native} (h : find? path = some (.function f)) :
    (path, f) ∈ Entry.functions tree :=
  (Entry.mem_functions_iff valid_tree).2 h

end Library

end Tether
