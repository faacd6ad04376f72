import Tether.Proofs.Complete.TopLevel

/-! What is offered behind a path leads somewhere, unless a binding hides the namespace it was taken
from: `lookup_candidate`. -/
namespace Tether

theorem resolve?_concat {bs : List Binding} {path : List String} (hp : path ≠ []) (n : String) :
    resolve? bs (path ++ [n]) = (resolve? bs path).bind fun b => find? n b.entries := by
  induction path generalizing bs with
  | nil => cases hp rfl
  | cons m ms ih =>
    rw [List.cons_append, resolve?_cons, resolve?_cons]
    cases find? m bs with
    | none => rfl
    | some b =>
      cases ms with
      | nil => rfl
      | cons k ks => exact ih (List.cons_ne_nil k ks)

theorem find?_isSome {bs : List Binding} {b : Binding} (h : b ∈ bs) :
    (find? b.name bs).isSome := by
  rw [find?, List.find?_isSome]
  exact ⟨b, h, by simp⟩

namespace Document
variable {d : Document} {path : List String} {n : String}

def Binds (d : Document) (path : List String) : Prop := ∃ n ∈ path.head?, (d.find? n).isSome

theorem lookup?_of_binds (h : d.Binds path) : d.lookup? path = (d.resolve? path).map .binding := by
  cases path with
  | nil => rfl
  | cons n ns =>
    obtain ⟨m, ⟨⟩, hn⟩ := h
    exact if_pos hn

theorem lookup?_of_not_binds (hp : path ≠ []) (h : ¬ d.Binds path) :
    d.lookup? path = native? path := by
  cases path with
  | nil => cases hp rfl
  | cons n ns => exact if_neg fun hn => h ⟨n, rfl, hn⟩

theorem binds_of_resolve? {b : Binding} (h : d.resolve? path = some b) : d.Binds path := by
  cases path with
  | nil => cases h
  | cons n ns =>
    rw [resolve?, resolve?_cons] at h
    obtain ⟨c, hc, -⟩ := Option.bind_eq_some_iff.1 h
    exact ⟨n, rfl, Option.isSome_of_eq_some hc⟩

theorem binds_concat (hp : path ≠ []) : d.Binds (path ++ [n]) ↔ d.Binds path := by
  cases path with
  | nil => cases hp rfl
  | cons m ms => rfl

/-- A binding stands where a path begins, and the path leads to no block. -/
def Hides (d : Document) (path : List String) : Prop :=
  d.Binds path ∧ ∀ name es, d.resolve? path ≠ some (.block name es)

theorem not_hides_of_block {name : String} {es : List Binding}
    (h : d.resolve? path = some (.block name es)) : ¬ d.Hides path :=
  fun hh => hh.2 name es h

theorem not_hides_empty (hv : ValidBindings d.bindings) : ¬ d.Hides (Text.segments "") := by
  rintro ⟨⟨n, hn, hb⟩, -⟩
  cases (show Text.segments "" = [""] from rfl) ▸ hn
  obtain ⟨b, hb⟩ := Option.isSome_iff_exists.1 hb
  obtain ⟨hm, he⟩ := (find?_eq_some_iff hv.distinct).1 hb
  exact ne_nil_of_isName (hv.valid b hm).isName (by simp [he])

end Document

theorem isSome_native?_library {path : List String} (h : (Entry.at? Library.tree path).isSome)
    (hp : path ≠ []) (hn : ∀ n ∈ path, isName n.toList) : (native? path).isSome := by
  have hd : Text.segments (Text.dotted path) = path :=
    Text.segments_dotted (fun n hm => not_mem_dot_of_isName (hn n hm)) hp
  simp [native?, Library.find?, hd, h]

namespace Complete.Candidate
open Document Text
variable {d : Document} {c : Candidate}

theorem lookup?_topLevel (hv : ValidBindings d.bindings) (h : c ∈ topLevel d) :
    isName c.name.toList ∧ (d.lookup? [c.name]).isSome := by
  obtain ⟨t, ht, -⟩ := exists_referent hv h
  exact ⟨isName_of_mem_topLevel hv h, Option.isSome_of_eq_some ht⟩

theorem lookup?_block (hv : ValidBindings d.bindings) {path : List String} {name : String}
    {es : List Binding} (hb : d.resolve? path = some (.block name es))
    (hc : c ∈ es.map ofBinding) :
    isName c.name.toList ∧ (d.lookup? (path ++ [c.name])).isSome := by
  obtain ⟨b, hm, rfl⟩ := List.mem_map.1 hc
  change isName b.name.toList ∧ (d.lookup? (path ++ [b.name])).isSome
  have hp : path ≠ [] := by
    rintro rfl
    cases hb
  have hr : d.resolve? (path ++ [b.name]) = find? b.name es := by
    rw [Document.resolve?, resolve?_concat hp, ← Document.resolve?, hb]
    rfl
  obtain ⟨e, he⟩ := Option.isSome_iff_exists.1 (find?_isSome hm)
  rw [he] at hr
  refine ⟨isName_of_resolve? hv hr b.name (by simp), ?_⟩
  rw [lookup?_of_binds ((binds_concat hp).2 (binds_of_resolve? hb)), hr]
  rfl

/-- Behind the path of a namespace stand its names, unless the path is one of the document. -/
theorem lookup?_group {parent : String} {es : List (String × Entry Native)}
    (hl : Library.find? parent = some (.group es)) (hc : c ∈ es.map ofEntry) :
    isName c.name.toList ∧
      (¬ d.Binds (segments parent) → (d.lookup? (segments parent ++ [c.name])).isSome) := by
  obtain ⟨⟨n, e⟩, hm, rfl⟩ := List.mem_map.1 hc
  obtain ⟨hp, he⟩ := Library.isName_of_find? hl
  have hn : isName n.toList := he n (Entry.mem_namesIn hm).1
  rw [name_ofEntry]
  refine ⟨hn, fun hb => ?_⟩
  have hne := segments_ne_nil parent
  have ha : Entry.at? Library.tree (segments parent ++ [n]) = es.lookup n :=
    Entry.at?_concat hne hl
  rw [lookup?_of_not_binds (by simp) (mt (binds_concat hne).1 hb)]
  refine isSome_native?_library ?_ (by simp) (fun m hk => ?_)
  · rw [ha]
    exact lookup_isSome hm
  · rcases List.mem_append.1 hk with hk | hk
    · exact hp m hk
    · rwa [List.mem_singleton.1 hk]

theorem lookup?_of_hides {path : List String} (h : d.Hides path) (hp : path ≠ []) (n : String) :
    d.lookup? (path ++ [n]) = none := by
  rw [lookup?_of_binds ((binds_concat hp).2 h.1), Option.map_eq_none_iff, Document.resolve?,
    resolve?_concat hp, Option.bind_eq_none_iff]
  intro b hb
  cases b with
  | leaf name ps source => rfl
  | block name es => exact absurd hb (h.2 name es)

theorem isSome_lookup?_iff (hv : ValidBindings d.bindings) {parent : String}
    (hc : c ∈ under d parent) :
    (d.lookup? (segments (Entry.childPath parent c.name))).isSome ↔
      ¬ d.Hides (segments parent) := by
  rw [under] at hc
  by_cases hp : parent.isEmpty
  · rw [if_pos hp] at hc
    obtain ⟨hn, hl⟩ := lookup?_topLevel hv hc
    rw [Entry.childPath, if_pos hp, segments_of_not_mem (not_mem_dot_of_isName hn),
      String.isEmpty_iff.1 hp]
    exact iff_of_true hl (not_hides_empty hv)
  · rw [if_neg hp] at hc
    have hs (hn : isName c.name.toList) :
        segments (Entry.childPath parent c.name) = segments parent ++ [c.name] := by
      rw [Entry.childPath, if_neg hp, segments_append,
        segments_of_not_mem (not_mem_dot_of_isName hn)]
    split at hc
    next name es hb =>
      obtain ⟨hn, hl⟩ := lookup?_block hv hb hc
      rw [hs hn]
      exact iff_of_true hl (not_hides_of_block hb)
    next hb =>
      split at hc
      next es hl =>
        obtain ⟨hn, hf⟩ := lookup?_group hl hc
        rw [hs hn]
        by_cases hx : d.Binds (segments parent)
        · have hh : d.Hides (segments parent) := ⟨hx, hb⟩
          rw [lookup?_of_hides hh (segments_ne_nil parent)]
          exact iff_of_false Bool.false_ne_true (not_not.2 hh)
        · exact iff_of_true (hf hx) fun hh => hx hh.1
      next => cases hc

/-- What is offered behind a path leads somewhere, unless the path begins with a bound name and is
not that of a block: then the names are those of a namespace that the binding hides, and none of
them is known. -/
theorem lookup_candidate {src : String} (h : parse src = .ok d) {parent : String}
    (hc : c ∈ under d parent) :
    let path := segments (Entry.childPath parent c.name)
    (¬ d.Hides (segments parent) → ∃ t, d.lookup? path = some t ∧
      ∀ r, Evaluator.resolve d r ⟨[], []⟩ path = answer r path (some t)) ∧
    (d.Hides (segments parent) → d.lookup? path = none ∧
      ∀ r, Evaluator.resolve d r ⟨[], []⟩ path =
        .error (.unknownName (Entry.childPath parent c.name))) := by
  have hv := valid_of_parse h
  intro path
  have hfound := isSome_lookup?_iff hv hc
  refine ⟨fun hh => ?_, fun hh => ?_⟩
  · obtain ⟨t, ht⟩ := Option.isSome_iff_exists.1 (hfound.2 hh)
    exact ⟨t, ht, fun r => by rw [Evaluator.resolve_eq, ht]⟩
  · have hn : d.lookup? path = none := by simpa using mt hfound.1 (not_not.2 hh)
    refine ⟨hn, fun r => ?_⟩
    rw [Evaluator.resolve_eq, hn, answer, dotted_segments]

/-- A block in the place of a namespace of the library. -/
theorem lookup_candidate_block : ∃ d c t, parse "strings \x7b\n pow x = x\n\x7d" = .ok d ∧
    under d "strings" = [c] ∧ d.lookup? (segments (Entry.childPath "strings" c.name)) = some t := by
  obtain ⟨d, c, h, hu, hb⟩ : ∃ d c, parse "strings \x7b\n pow x = x\n\x7d" = .ok d ∧
      under d "strings" = [c] ∧ d.resolve? (segments "strings") = some (.block "strings"
        [.leaf "pow" [⟨"x", false⟩] ⟨"x", .path ["x"]⟩]) :=
    ⟨⟨[.block "strings" [.leaf "pow" [⟨"x", false⟩] ⟨"x", .path ["x"]⟩]]⟩, ⟨"pow", .function, true⟩,
      by cbv, by rfl, by rfl⟩
  have hc : c ∈ under d "strings" := by simp [hu]
  obtain ⟨t, ht, -⟩ := (lookup_candidate h hc).1 (not_hides_of_block hb)
  exact ⟨d, c, t, h, hu, ht⟩

/-- A value in the place of a namespace of the library, whose names are offered all the same. -/
theorem lookup_candidate_hidden : ∃ d, parse "strings = 1" = .ok d ∧
    ⟨"case", .builtin, false⟩ ∈ under d "strings" ∧
    d.lookup? (segments (Entry.childPath "strings" "case")) = none ∧
    d.evaluate "strings.case" = .error (.unknownName "strings.case") := by
  refine ⟨⟨[.leaf "strings" [] ⟨"1", .int 1⟩]⟩, by cbv, ?_, by rfl, by cbv⟩
  have hu : under ⟨[.leaf "strings" [] ⟨"1", .int 1⟩]⟩ "strings" = [⟨"case", .builtin, false⟩,
      ⟨"has_prefix", .builtin, true⟩, ⟨"repeat", .builtin, true⟩,
      ⟨"reverse", .builtin, true⟩] := by rfl
  simp [hu]

end Complete.Candidate

end Tether
