import Tether.Proofs.Eval.Comparison
import Tether.Proofs.Eval.Paths

/-! What an evaluation does not depend on: bindings outside all blocks that no path begins with, and
the order of those bindings (`evaluate_unaffected`). -/
namespace Tether
variable {bs before after : List Binding} {b : Binding} {n : String}

theorem mem_firstNamesIn (h : b ∈ bs) (hn : n ∈ b.firstNames) : n ∈ firstNamesIn bs := by
  induction bs with
  | nil => cases h
  | cons c cs ih =>
    rcases List.mem_cons.1 h with rfl | h
    · exact List.mem_append_left _ hn
    · exact List.mem_append_right _ (ih h)

theorem mem_firstNames_of_entries (hn : n ∈ firstNamesIn b.entries) : n ∈ b.firstNames := by
  cases b with
  | leaf name ps source => cases hn
  | block name es => exact hn

theorem mem_firstNames_of_resolve? {path : List String} (h : resolve? bs path = some b)
    (hn : n ∈ b.firstNames) : n ∈ firstNamesIn bs := by
  induction path generalizing bs with
  | nil => cases h
  | cons m ms ih =>
    rw [resolve?_cons] at h
    obtain ⟨c, hc, ha⟩ := Option.bind_eq_some_iff.1 h
    refine mem_firstNamesIn (List.mem_of_find?_eq_some hc) ?_
    cases ms with
    | nil =>
      cases ha
      exact hn
    | cons k ks => exact mem_firstNames_of_entries (ih ha)

theorem find?_insert (h : b.name ≠ n) :
    find? n (before ++ b :: after) = find? n (before ++ after) := by
  have hb : (b.name == n) = false := beq_false_of_ne h
  simp [find?, List.find?_append, hb]

theorem find?_perm {cs : List Binding} (h : bs.Perm cs) (hd : (bs.map Binding.name).Nodup) :
    find? n bs = find? n cs := by
  have hc : (cs.map Binding.name).Nodup := (h.map Binding.name).nodup hd
  ext c
  rw [find?_eq_some_iff hd, find?_eq_some_iff hc, h.mem_iff]

theorem sameBut_of_find? {names : List String} {d d' : Document}
    (h : ∀ n, n ∉ names → find? n d.bindings = find? n d'.bindings)
    (hm : (firstNamesIn d.bindings).Disjoint names) : SameBut names d d' := by
  refine ⟨fun path hp => ?_, fun path c hc n hn => ?_⟩
  · cases path with
    | nil => rfl
    | cons n ns =>
      have hn : n ∉ names := by simpa [Outside] using hp
      rw [Document.resolve?, Document.resolve?, resolve?_cons, resolve?_cons, h n hn]
  · exact hm (mem_firstNames_of_resolve? hc hn)

namespace Document
open Evaluator

theorem evaluate_of_sameBut {names : List String} {d d' : Document} (hd : SameBut names d d')
    {text : String}
    (hm : ∀ e, Expr.parse (Text.trim text.toList) = .ok e → e.firstNames.Disjoint names) :
    d.evaluate text = d'.evaluate text := by
  unfold evaluate
  cases he : Expr.parse (Text.trim text.toList) with
  | error e => rfl
  | ok e =>
    have hr : ReachAgrees False names (reach d maxDepth) (reach d' maxDepth) :=
      agrees_reach hd le_rfl (.inl rfl)
    have hs : Scope.Avoids names ⟨[], []⟩ := ⟨by simp [Outside], by simp⟩
    exact (agrees_eval hd hr hs e (hm e he)).eq

theorem evaluate_insert {text : String} (hb : b.name ∉ firstNamesIn (before ++ after))
    (ht : ∀ e, Expr.parse (Text.trim text.toList) = .ok e → b.name ∉ e.firstNames) :
    evaluate ⟨before ++ b :: after⟩ text = evaluate ⟨before ++ after⟩ text := by
  have hd : SameBut [b.name] ⟨before ++ after⟩ ⟨before ++ b :: after⟩ := by
    refine sameBut_of_find? (fun n hn => ?_) (by simpa using hb)
    have hne : b.name ≠ n := by
      rintro rfl
      simp at hn
    exact (find?_insert hne).symm
  exact (evaluate_of_sameBut hd fun e he => by simpa using ht e he).symm

theorem evaluate_perm {cs : List Binding} (h : bs.Perm cs) (hd : (bs.map Binding.name).Nodup)
    (text : String) : evaluate ⟨cs⟩ text = evaluate ⟨bs⟩ text := by
  have hs : SameBut [] ⟨bs⟩ ⟨cs⟩ :=
    sameBut_of_find? (fun n _ => find?_perm h hd) (List.disjoint_nil_right _)
  exact (evaluate_of_sameBut hs fun e _ => List.disjoint_nil_right _).symm

/-- A binding that is put anywhere among those outside all blocks changes no value and no error if
no path in the document and in the text begins with its name, and neither does another order of the
bindings there. -/
theorem evaluate_unaffected (hd : (bs.map Binding.name).Nodup) (text : String) :
    (∀ before after b, bs = before ++ after → b.name ∉ firstNamesIn bs →
      (∀ e, Expr.parse (Text.trim text.toList) = .ok e → b.name ∉ e.firstNames) →
      evaluate ⟨before ++ b :: after⟩ text = evaluate ⟨bs⟩ text) ∧
    ∀ cs, bs.Perm cs → evaluate ⟨cs⟩ text = evaluate ⟨bs⟩ text := by
  refine ⟨?_, fun cs h => evaluate_perm h hd text⟩
  rintro before after b rfl hb ht
  exact evaluate_insert hb ht

/-- A new binding that hides a builtin and has no value. -/
theorem evaluate_unaffected_hidden : ∃ a b c, parse "a = b + 1\nb = 2" = .ok ⟨[a, b]⟩ ∧
    parse "len = len" = .ok ⟨[c]⟩ ∧ evaluate ⟨[a, c, b]⟩ "a * b" = .ok (.int 6) ∧
    evaluate ⟨[b, a]⟩ "a * b" = .ok (.int 6) := by
  obtain ⟨a, b, c, h, hc, hd, hm, hn, hv⟩ : ∃ a b c, parse "a = b + 1\nb = 2" = .ok ⟨[a, b]⟩ ∧
      parse "len = len" = .ok ⟨[c]⟩ ∧ ([a, b].map Binding.name).Nodup ∧
      c.name ∉ firstNamesIn [a, b] ∧ c.name ∉ ["a", "b"] ∧
      evaluate ⟨[a, b]⟩ "a * b" = .ok (.int 6) :=
    ⟨.leaf "a" [] ⟨"b + 1", .binary .add (.path ["b"]) (.int 1)⟩, .leaf "b" [] ⟨"2", .int 2⟩,
      .leaf "len" [] ⟨"len", .path ["len"]⟩, by cbv, by cbv, by decide, by decide, by decide,
      by cbv⟩
  have hp : Expr.parse (Text.trim "a * b".toList) =
      .ok (.binary .mul (.path ["a"]) (.path ["b"])) := by cbv
  obtain ⟨hi, hs⟩ := evaluate_unaffected hd "a * b"
  refine ⟨a, b, c, h, hc, (hi [a] [b] c rfl hm fun e he => ?_).trans hv, (hs [b, a] ?_).trans hv⟩
  · cases hp.symm.trans he
    exact hn
  · exact List.Perm.swap b a []

end Document

end Tether
