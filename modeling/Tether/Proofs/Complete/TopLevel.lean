import Tether.Complete.Candidate
import Tether.Proofs.Eval.Lookup
import Tether.Proofs.Native.Names
import Tether.Proofs.Text.Segments
import Mathlib

/-! The names that can begin a path are offered as what they lead to: `topLevel_mirrors`. A list in
which the first of each name is kept finds what the lists it was put together from find in turn. -/
namespace Tether

theorem not_mem_dot_of_isName {s : String} (h : isName s.toList) : '.' ∉ s.toList :=
  not_mem_of_isName h (by decide)

theorem name_of_find? {bs : List Binding} {b : Binding} {n : String} (h : find? n bs = some b) :
    b.name = n := by
  simpa using List.find?_some h

/-- What is callable where a lookup stops: a binding with parameters, and every function that is no
binding. -/
def Referent.Callable : Referent → Prop
  | .binding b => b.isFunction
  | .builtin _ => True
  | .entry (.function _) => True
  | .entry (.group _) => False

theorem Document.lookup?_eq_binding_iff {d : Document} {n : String} {b : Binding} :
    d.lookup? [n] = some (.binding b) ↔ d.find? n = some b := by
  rw [lookup?]
  cases h : d.find? n with
  | some b' =>
    have hr : d.resolve? [n] = some b' := h
    simp [hr]
  | none => simp [native?]

namespace Complete.Candidate
open Document Text
variable {d : Document} {c : Candidate}

section First
variable {known : List String} {cs : List Candidate}

theorem mem_firstOfName_iff : c ∈ firstOfName known cs ↔
    c.name ∉ known ∧ cs.find? (·.name == c.name) = some c := by
  induction cs generalizing known with
  | nil => simp [firstOfName]
  | cons a as ih =>
    rw [firstOfName]
    by_cases hk : a.name ∈ known
    · rw [if_pos (by simpa using hk), ih]
      refine and_congr_right fun hc => ?_
      have hn : a.name ≠ c.name := fun he => hc (he ▸ hk)
      rw [List.find?_cons_of_neg (by simpa using hn)]
    · rw [if_neg (by simpa using hk), List.mem_cons, ih]
      by_cases hn : a.name = c.name
      · -- any other candidate of this name comes too late
        rw [List.find?_cons_of_pos (by simpa using hn), Option.some_inj]
        constructor
        · rintro (rfl | ⟨hc, -⟩)
          · exact ⟨hk, rfl⟩
          · exact absurd (by simp [hn]) hc
        · rintro ⟨-, rfl⟩
          exact .inl rfl
      · rw [List.find?_cons_of_neg (by simpa using hn)]
        have hne : c ≠ a := fun he => hn (by rw [he])
        simp [hne, Ne.symm hn]

theorem nodup_firstOfName : ((firstOfName known cs).map name).Nodup := by
  induction cs generalizing known with
  | nil => simp [firstOfName]
  | cons a as ih =>
    rw [firstOfName]
    by_cases hk : known.contains a.name
    · rw [if_pos hk]
      exact ih
    · rw [if_neg hk, List.map_cons, List.nodup_cons]
      refine ⟨fun hm => ?_, ih⟩
      obtain ⟨c, hc, he⟩ := List.mem_map.1 hm
      exact (mem_firstOfName_iff.1 hc).1 (by simp [he])

end First

theorem name_ofEntry (p : String × Entry Native) : (ofEntry p).name = p.1 := by
  obtain ⟨n, e⟩ := p
  cases e <;> rfl

def ofReferent (n : String) : Referent → Candidate
  | .binding b => ⟨n, if b.isFunction then .function else .value, b.isFunction⟩
  | .builtin _ => ⟨n, .builtin, true⟩
  | .entry e => ofEntry (n, e)

theorem find?_ofEntry (es : List (String × Entry Native)) (n : String) :
    (es.map ofEntry).find? (·.name == n) = (es.lookup n).map fun e => ofEntry (n, e) := by
  induction es with
  | nil => rfl
  | cons p es ih =>
    obtain ⟨m, e⟩ := p
    by_cases h : m = n
    · subst h
      simp [name_ofEntry]
    · have hl : (n == m) = false := by simpa using Ne.symm h
      rw [List.map_cons, List.find?_cons_of_neg (by simpa [name_ofEntry] using h), ih,
        List.lookup_cons, hl]

theorem find?_sources (n : String) (hn : '.' ∉ n.toList) :
    (d.bindings.map ofBinding ++ Builtin.table.map ofNative ++ Library.tree.map ofEntry).find?
      (·.name == n) = (d.lookup? [n]).map (ofReferent n) := by
  have hb : (d.bindings.map ofBinding).find? (·.name == n) = (d.find? n).map ofBinding := by
    rw [List.find?_map]
    rfl
  have hf : (Builtin.table.map ofNative).find? (·.name == n) = (Builtin.find? n).map ofNative := by
    rw [List.find?_map]
    rfl
  have hl : Library.find? (dotted [n]) = Library.tree.lookup n := by
    rw [Library.find?, segments_dotted (by simpa using hn) (by simp)]
    rfl
  rw [List.find?_append, List.find?_append, hb, hf, find?_ofEntry, Document.lookup?]
  cases h : d.find? n with
  | some b =>
    have hr : d.resolve? [n] = some b := h
    have hn : b.name = n := name_of_find? h
    simp [hr, ofReferent, ofBinding, hn]
  | none =>
    cases hfn : Builtin.find? n with
    | some f => simp [native?, builtinAt?, hfn, ofReferent, ofNative, Builtin.name_of_find? hfn]
    | none =>
      cases hln : Library.tree.lookup n <;>
        simp [native?, builtinAt?, hfn, hl, hln, ofReferent]

theorem mem_topLevel_iff (hn : '.' ∉ c.name.toList) :
    c ∈ topLevel d ↔ ∃ t, d.lookup? [c.name] = some t ∧ ofReferent c.name t = c := by
  rw [topLevel, mem_firstOfName_iff, find?_sources c.name hn, Option.map_eq_some_iff]
  simp

theorem isName_of_mem_topLevel (hv : ValidBindings d.bindings) (h : c ∈ topLevel d) :
    isName c.name.toList := by
  have hc := List.mem_of_find?_eq_some (mem_firstOfName_iff.1 h).2
  rw [List.mem_append, List.mem_append] at hc
  rcases hc with (hc | hc) | hc
  · obtain ⟨b, hb, rfl⟩ := List.mem_map.1 hc
    exact (hv.valid b hb).isName
  · obtain ⟨f, hf, rfl⟩ := List.mem_map.1 hc
    exact Builtin.isName_of_mem f hf
  · obtain ⟨⟨n, e⟩, he, rfl⟩ := List.mem_map.1 hc
    rw [name_ofEntry]
    exact Library.isName_of_mem n (Entry.mem_namesIn he).1

theorem exists_referent (hv : ValidBindings d.bindings) (h : c ∈ topLevel d) :
    ∃ t, d.lookup? [c.name] = some t ∧ ofReferent c.name t = c :=
  (mem_topLevel_iff (not_mem_dot_of_isName (isName_of_mem_topLevel hv h))).1 h

theorem name_ofReferent (n : String) (t : Referent) : (ofReferent n t).name = n := by
  cases t with
  | binding b => rfl
  | builtin f => rfl
  | entry e => exact name_ofEntry (n, e)

theorem callable_ofReferent (n : String) (t : Referent) : (ofReferent n t).callable ↔ t.Callable := by
  cases t with
  | binding b => rfl
  | builtin f => simp [ofReferent, Referent.Callable]
  | entry e => cases e <;> simp [ofReferent, ofEntry, Referent.Callable]

theorem kind_ofReferent (n : String) (t : Referent) :
    ((ofReferent n t).kind = .value ↔ ∃ b, t = .binding b ∧ ¬ b.isFunction) ∧
      ((ofReferent n t).kind = .function ↔ ∃ b, t = .binding b ∧ b.isFunction) ∧
      ((ofReferent n t).kind = .builtin ↔ ∀ b, t ≠ .binding b) := by
  cases t with
  | binding b => by_cases hf : b.isFunction <;> simp [ofReferent, hf]
  | builtin f => simp [ofReferent]
  | entry e => cases e <;> simp [ofReferent, ofEntry]

/-- The names offered at the beginning of a path are those that the lookup finds, each once. The kind
of one that is bound is that of its binding, and of any other that of a builtin; and it is marked as
callable if the lookup stops at a function. -/
theorem topLevel_mirrors {src : String} (h : parse src = .ok d) :
    ((under d "").map name).Nodup ∧
    (∀ n, n ∈ (under d "").map name ↔ '.' ∉ n.toList ∧ ∃ t, d.lookup? [n] = some t) ∧
    (∀ c ∈ under d "",
      (c.kind = .value ↔ ∃ b, d.find? c.name = some b ∧ ¬ b.isFunction) ∧
      (c.kind = .function ↔ ∃ b, d.find? c.name = some b ∧ b.isFunction) ∧
      (c.kind = .builtin ↔ d.find? c.name = none) ∧
      (c.callable ↔ ∃ t, d.lookup? [c.name] = some t ∧ t.Callable)) ∧
    ∀ n r, Evaluator.resolve d r ⟨[], []⟩ [n] = answer r [n] (d.lookup? [n]) := by
  have hv := valid_of_parse h
  refine ⟨nodup_firstOfName, fun n => ?_, fun c hc => ?_, fun n r => Evaluator.resolve_eq d r [n]⟩
  · constructor
    · intro hn
      obtain ⟨c, hc, rfl⟩ := List.mem_map.1 hn
      obtain ⟨t, ht, -⟩ := exists_referent hv hc
      exact ⟨not_mem_dot_of_isName (isName_of_mem_topLevel hv hc), t, ht⟩
    · rintro ⟨hd, t, ht⟩
      have hn := name_ofReferent n t
      refine List.mem_map.2 ⟨ofReferent n t, ?_, hn⟩
      exact (mem_topLevel_iff (by rwa [hn])).2 ⟨t, by rw [hn, ht], by rw [hn]⟩
  · obtain ⟨t, ht, he⟩ := exists_referent hv hc
    have hb (b : Binding) : d.find? c.name = some b ↔ t = .binding b := by
      rw [← lookup?_eq_binding_iff, ht, Option.some_inj]
    have hkind := kind_ofReferent c.name t
    have hcall := callable_ofReferent c.name t
    rw [he] at hkind hcall
    simpa [Option.eq_none_iff_forall_ne_some, hb, ht, hcall] using hkind

/-- A function in the place of a builtin and a value in the place of a namespace. -/
theorem topLevel_mirrors_shadowing : ∃ d, parse "join x = x\nstrings = 1" = .ok d ∧
    ((under d "").map name).Nodup ∧ ⟨"join", .function, true⟩ ∈ under d "" ∧
    ⟨"strings", .value, false⟩ ∈ under d "" ∧ ∃ t, d.lookup? ["len"] = some t := by
  obtain ⟨d, h, hu⟩ : ∃ d, parse "join x = x\nstrings = 1" = .ok d ∧ (under d "").take 3 =
      [⟨"join", .function, true⟩, ⟨"strings", .value, false⟩, ⟨"len", .builtin, true⟩] :=
    ⟨⟨[.leaf "join" [⟨"x", false⟩] ⟨"x", .path ["x"]⟩, .leaf "strings" [] ⟨"1", .int 1⟩]⟩,
      by cbv, by rfl⟩
  have hm : ∀ c ∈ (under d "").take 3, c ∈ under d "" := fun c hc => List.mem_of_mem_take hc
  rw [hu] at hm
  obtain ⟨hn, hmem, -, -⟩ := topLevel_mirrors h
  have hlen : "len" ∈ (under d "").map name :=
    List.mem_map.2 ⟨_, hm ⟨"len", .builtin, true⟩ (by simp), rfl⟩
  exact ⟨d, h, hn, hm _ (by simp), hm _ (by simp), ((hmem "len").1 hlen).2⟩

end Complete.Candidate

end Tether
