import Tether.Native.Library
import Tether.Proofs.Text.Segments
import Mathlib.Data.List.Nodup

/-! Lists of pairs to look names up in, and trees of them. The functions of a tree of namespaces are
listed with their paths, each of them once, and what is listed is what the paths lead to:
`nodup_functions`, `mem_functions_iff`. -/
namespace Tether

section Lookup
variable {α β : Type} [BEq α] [LawfulBEq α] {es : List (α × β)} {n : α} {e : β}

theorem mem_of_lookup (h : es.lookup n = some e) : (n, e) ∈ es := by
  obtain ⟨before, after, rfl, -⟩ := List.lookup_eq_some_iff.1 h
  simp

theorem lookup_isSome (h : (n, e) ∈ es) : (es.lookup n).isSome := by
  rw [List.lookup_isSome_iff]
  exact ⟨(n, e), h, by simp⟩

theorem lookup_eq_some_iff (hd : (es.map Prod.fst).Nodup) :
    es.lookup n = some e ↔ (n, e) ∈ es := by
  refine ⟨mem_of_lookup, fun h => ?_⟩
  obtain ⟨e', he⟩ := Option.isSome_iff_exists.1 (lookup_isSome h)
  obtain ⟨-, rfl⟩ := Prod.mk.inj (List.inj_on_of_nodup_map hd h (mem_of_lookup he) rfl)
  exact he

end Lookup

namespace Entry
variable {α : Type}

/-- Namespaces with no name twice, and names that can stand in paths. -/
inductive Valid : Entry α → Prop
  | function (f : α) : Valid (.function f)
  | group {es : List (String × Entry α)} (hn : ∀ p ∈ es, p.1 ≠ "" ∧ '.' ∉ p.1.toList)
      (hd : (es.map Prod.fst).Nodup) (hv : ∀ p ∈ es, Valid p.2) : Valid (.group es)

mutual

def leaves : Entry α → List (List String × α)
  | function f => [([], f)]
  | group es => leavesIn es

def leavesIn : List (String × Entry α) → List (List String × α)
  | [] => []
  | (n, e) :: es => e.leaves.map (fun l => (n :: l.1, l.2)) ++ leavesIn es

end

theorem leavesIn_eq_flatMap (es : List (String × Entry α)) :
    leavesIn es = es.flatMap fun p => p.2.leaves.map fun l => (p.1 :: l.1, l.2) := by
  induction es with
  | nil => rfl
  | cons p es ih => rw [leavesIn, ih, List.flatMap_cons]

mutual

theorem functionsOf_eq (lead : String) (e : Entry α) :
    functionsOf lead e = e.leaves.map fun l => (l.1.foldl childPath lead, l.2) := by
  cases e with
  | function f => rfl
  | group es => rw [functionsOf, leaves, functionsIn_eq]

theorem functionsIn_eq (lead : String) (es : List (String × Entry α)) :
    functionsIn lead es = (leavesIn es).map fun l => (l.1.foldl childPath lead, l.2) := by
  cases es with
  | nil => rfl
  | cons p es =>
    rw [functionsIn, leavesIn, functionsOf_eq, functionsIn_eq]
    simp

end

section Paths
variable {lead : String}

theorem childPath_of_ne (h : lead ≠ "") (n : String) : childPath lead n = lead ++ "." ++ n := by
  rw [childPath, if_neg (by simpa using h)]

theorem foldl_childPath (h : lead ≠ "") (names : List String) :
    names.foldl childPath lead =
      lead ++ String.ofList (names.flatMap fun n => '.' :: n.toList) := by
  induction names generalizing lead with
  | nil => simp
  | cons n ns ih =>
    have hn : lead ++ "." ++ n ≠ "" := by simp [h]
    rw [List.foldl_cons, childPath_of_ne h, ih hn, ← String.toList_inj]
    simp

theorem foldl_childPath_empty {names : List String} (hn : names ≠ []) (h : ∀ n ∈ names, n ≠ "") :
    names.foldl childPath "" = Text.dotted names := by
  obtain ⟨n, ns, rfl⟩ := List.exists_cons_of_ne_nil hn
  rw [List.foldl_cons, show childPath "" n = n from rfl, foldl_childPath (h n List.mem_cons_self),
    Text.dotted, ← String.toList_inj]
  simp [Text.join, List.flatMap_map]

end Paths

def descend? : Entry α → List String → Option (Entry α)
  | e, [] => some e
  | group es, n :: ns => at? es (n :: ns)
  | function _, _ :: _ => none

theorem at?_cons (es : List (String × Entry α)) (n : String) (ns : List String) :
    at? es (n :: ns) = (es.lookup n).bind fun e => e.descend? ns := by
  cases ns with
  | nil => cases h : es.lookup n <;> simp [at?, descend?, h]
  | cons m ms =>
    rw [at?]
    cases es.lookup n with
    | none => rfl
    | some e => cases e <;> rfl

section Leaves
variable {es : List (String × Entry α)} {f : α} {names : List String}

theorem mem_leavesIn_iff (hd : (es.map Prod.fst).Nodup)
    (hl : ∀ p ∈ es, ∀ names f, (names, f) ∈ p.2.leaves ↔ p.2.descend? names = some (.function f)) :
    (names, f) ∈ leavesIn es ↔ at? es names = some (.function f) := by
  rw [leavesIn_eq_flatMap]
  cases names with
  | nil => simp [at?]
  | cons n ns =>
    rw [at?_cons, Option.bind_eq_some_iff]
    simp only [List.mem_flatMap, List.mem_map, Prod.mk.injEq, List.cons.injEq]
    constructor
    · rintro ⟨⟨m, e⟩, he, ⟨ns', f'⟩, hf, ⟨rfl, rfl⟩, rfl⟩
      exact ⟨e, (lookup_eq_some_iff hd).2 he, (hl _ he _ _).1 hf⟩
    · rintro ⟨e, he, hf⟩
      have hm := (lookup_eq_some_iff hd).1 he
      exact ⟨(n, e), hm, (ns, f), (hl _ hm _ _).2 hf, ⟨rfl, rfl⟩, rfl⟩

theorem mem_leaves_iff {e : Entry α} (h : e.Valid) (names : List String) (f : α) :
    (names, f) ∈ e.leaves ↔ e.descend? names = some (.function f) := by
  induction h generalizing names f with
  | function g => cases names <;> simp [leaves, descend?, eq_comm]
  | group hn hd hv ih =>
    rw [leaves, mem_leavesIn_iff hd ih]
    cases names with
    | nil => simp [at?, descend?]
    | cons n ns => rfl

theorem nodup_leaves {e : Entry α} (h : e.Valid) : (e.leaves.map Prod.fst).Nodup := by
  induction h with
  | function f => simp [leaves]
  | group hn hd hv ih =>
    rw [leaves, leavesIn_eq_flatMap, List.map_flatMap, List.nodup_flatMap]
    constructor
    · intro p hp
      have hm := (ih p hp).map (List.cons_injective (a := p.1))
      simpa [Function.comp_def] using hm
    · refine (List.pairwise_map.1 hd).imp fun hne => ?_
      -- the first names differ
      refine List.disjoint_left.2 fun names ha hb => ?_
      simp only [List.map_map, List.mem_map, Function.comp_apply] at ha hb
      obtain ⟨a, -, rfl⟩ := ha
      obtain ⟨b, -, hb⟩ := hb
      exact hne (List.cons.inj hb).1.symm

theorem names_of_mem_leaves {e : Entry α} (h : e.Valid) {l : List String × α} (hl : l ∈ e.leaves) :
    ∀ n ∈ l.1, n ≠ "" ∧ '.' ∉ n.toList := by
  induction h generalizing l with
  | function f =>
    obtain rfl := List.mem_singleton.1 hl
    exact nofun
  | group hn hd hv ih =>
    rw [leaves, leavesIn_eq_flatMap] at hl
    obtain ⟨p, hp, hl⟩ := List.mem_flatMap.1 hl
    obtain ⟨m, hm, rfl⟩ := List.mem_map.1 hl
    exact List.forall_mem_cons.2 ⟨hn p hp, ih p hp hm⟩

theorem segments_path (h : (group es).Valid) {l : List String × α} (hl : l ∈ leavesIn es) :
    Text.segments (l.1.foldl childPath "") = l.1 := by
  have hn := names_of_mem_leaves h hl
  have hne : l.1 ≠ [] := by
    intro he
    have ha := (mem_leaves_iff h l.1 l.2).1 hl
    rw [he] at ha
    cases ha
  rw [foldl_childPath_empty hne fun n hm => (hn n hm).1,
    Text.segments_dotted (fun n hm => (hn n hm).2) hne]

theorem nodup_functions (h : (group es).Valid) : ((functions es).map Prod.fst).Nodup := by
  rw [functions, functionsIn_eq, List.map_map]
  have hn : ((leavesIn es).map Prod.fst).Nodup := nodup_leaves h
  refine List.Nodup.of_map Text.segments ?_
  rw [List.map_map]
  have he : (leavesIn es).map (Text.segments ∘ Prod.fst ∘ fun l => (l.1.foldl childPath "", l.2)) =
      (leavesIn es).map Prod.fst :=
    List.map_congr_left fun l hl => segments_path h hl
  rwa [he]

theorem mem_functions_iff (h : (group es).Valid) {path : String} :
    (path, f) ∈ functions es ↔ at? es (Text.segments path) = some (.function f) := by
  have ha : at? es (Text.segments path) = some (.function f) ↔
      (Text.segments path, f) ∈ leavesIn es := by
    obtain ⟨n, ns, hs⟩ := List.exists_cons_of_ne_nil (Text.segments_ne_nil path)
    rw [hs]
    exact (mem_leaves_iff h (n :: ns) f).symm
  rw [ha, functions, functionsIn_eq]
  constructor
  · intro hm
    obtain ⟨l, hl, he⟩ := List.mem_map.1 hm
    obtain ⟨rfl, rfl⟩ := Prod.mk.inj he
    rwa [segments_path h hl]
  · intro hm
    refine List.mem_map.2 ⟨_, hm, ?_⟩
    have hp := congrArg Text.dotted (segments_path h hm)
    rw [Text.dotted_segments, Text.dotted_segments] at hp
    rw [hp]

end Leaves

end Entry

end Tether
