import Mathlib.Data.List.Nodup
import Tether.Eval.Evaluator
import Tether.Proofs.Document.Valid

/-! The ends of a document, which are its leaves and its empty blocks: all of them are found along
the tree (`mem_endsIn`), in the order of the declarations (`pairwise_endsIn`). The paths of the values
are some of their paths. -/
namespace Tether

def Binding.at? (b : Binding) : List String → Option Binding
  | [] => some b
  | n :: ns => resolve? b.entries (n :: ns)

theorem resolve?_cons (bs : List Binding) (n : String) (ns : List String) :
    resolve? bs (n :: ns) = (find? n bs).bind fun b => b.at? ns := by
  cases ns with
  | nil => simp [resolve?, Binding.at?]
  | cons m ns => rfl

def IsValue (bs : List Binding) (path : List String) : Prop :=
  ∃ name source, resolve? bs path = some (.leaf name [] source)

/-- Where two paths part, the binding on the first one is declared before that on the second. -/
inductive Earlier : List Binding → List String → List String → Prop
  | here {bs : List Binding} {m n : String} {p q : List String}
      (h : (bs.map Binding.name).idxOf m < (bs.map Binding.name).idxOf n) :
      Earlier bs (m :: p) (n :: q)
  | inside {bs : List Binding} {b : Binding} {n : String} {p q : List String}
      (hb : find? n bs = some b) (h : Earlier b.entries p q) : Earlier bs (n :: p) (n :: q)

theorem Earlier.asymm {bs : List Binding} {p q : List String} (h : Earlier bs p q) :
    ¬ Earlier bs q p := by
  induction h with
  | here h =>
    intro h'
    cases h' with
    | here h' => omega
    | inside hb h' => omega
  | inside hb h ih =>
    intro h'
    cases h' with
    | here h' => omega
    | inside hc h' =>
      cases hb.symm.trans hc
      exact ih h'

theorem Binding.Valid.entries {b : Binding} (h : b.Valid) : ValidBindings b.entries := by
  cases h with
  | leaf hn hp hs => exact .nil
  | block hn hv hd => exact ⟨hv, hd⟩

theorem find?_eq_some_iff {bs : List Binding} (hd : (bs.map Binding.name).Nodup) {n : String}
    {b : Binding} : find? n bs = some b ↔ b ∈ bs ∧ b.name = n := by
  constructor
  · intro h
    exact ⟨List.mem_of_find?_eq_some h, by simpa using List.find?_some h⟩
  · rintro ⟨hb, rfl⟩
    cases hf : find? b.name bs with
    | none =>
      have := List.find?_eq_none.1 hf b hb
      simp at this
    | some c =>
      have hc : c.name = b.name := by simpa using List.find?_some hf
      rw [List.inj_on_of_nodup_map hd (List.mem_of_find?_eq_some hf) hb hc]

theorem valid_of_resolve? {bs : List Binding} (h : ValidBindings bs) {path : List String}
    {b : Binding} (hr : resolve? bs path = some b) : b.Valid := by
  induction path generalizing bs with
  | nil => cases hr
  | cons n ns ih =>
    rw [resolve?_cons] at hr
    obtain ⟨c, hc, ha⟩ := Option.bind_eq_some_iff.1 hr
    have hv := h.valid c ((find?_eq_some_iff h.distinct).1 hc).1
    cases ns with
    | nil =>
      cases ha
      exact hv
    | cons m ms => exact ih hv.entries ha

theorem isName_of_resolve? {bs : List Binding} (h : ValidBindings bs) {path : List String}
    {b : Binding} (hr : resolve? bs path = some b) : ∀ n ∈ path, isName n.toList := by
  induction path generalizing bs with
  | nil => cases hr
  | cons n ns ih =>
    rw [resolve?_cons] at hr
    obtain ⟨c, hc, ha⟩ := Option.bind_eq_some_iff.1 hr
    obtain ⟨hb, rfl⟩ := (find?_eq_some_iff h.distinct).1 hc
    have hv := h.valid c hb
    intro m hm
    rcases List.mem_cons.1 hm with rfl | hm
    · exact hv.isName
    · cases ns with
      | nil => cases hm
      | cons k ns => exact ih hv.entries ha m hm

mutual

/-- What ends a path at a binding or below it, with the path: a leaf or an empty block. -/
def Binding.ends : Binding → List (List String × Binding)
  | .leaf n ps s => [([n], .leaf n ps s)]
  | .block n [] => [([n], .block n [])]
  | .block n (e :: es) => (e.ends ++ endsIn es).map fun x => (n :: x.1, x.2)

def endsIn : List Binding → List (List String × Binding)
  | [] => []
  | b :: bs => b.ends ++ endsIn bs

end

theorem endsIn_eq_flatMap (bs : List Binding) : endsIn bs = bs.flatMap Binding.ends := by
  induction bs with
  | nil => rfl
  | cons b bs ih => rw [endsIn, ih, List.flatMap_cons]

theorem Binding.ends_of_entries (b : Binding) (h : b.entries ≠ []) :
    b.ends = (endsIn b.entries).map fun x => (b.name :: x.1, x.2) := by
  cases b with
  | leaf n ps s => cases h rfl
  | block n es =>
    cases es with
    | nil => cases h rfl
    | cons e es => rfl

theorem Binding.ends_of_no_entries (b : Binding) (h : b.entries = []) :
    b.ends = [([b.name], b)] := by
  cases b with
  | leaf n ps s => rfl
  | block n es =>
    cases h
    rfl

theorem Binding.at?_of_no_entries {b : Binding} (h : b.entries = []) (p : List String) :
    b.at? p = if p = [] then some b else none := by
  cases p with
  | nil => rfl
  | cons n p =>
    rw [at?, h, resolve?_cons]
    rfl

section Ends
variable {bs : List Binding} {b c : Binding} {q : List String}

theorem mem_endsIn_of_ends (hd : (bs.map Binding.name).Nodup)
    (h : ∀ b ∈ bs, ∀ q, (q, c) ∈ b.ends ↔ ∃ p, q = b.name :: p ∧ b.at? p = some c ∧ c.entries = []) :
    (q, c) ∈ endsIn bs ↔ resolve? bs q = some c ∧ c.entries = [] := by
  rw [endsIn_eq_flatMap, List.mem_flatMap]
  constructor
  · rintro ⟨b, hb, hq⟩
    obtain ⟨p, rfl, ha, hc⟩ := (h b hb q).1 hq
    refine ⟨?_, hc⟩
    rwa [resolve?_cons, (find?_eq_some_iff hd).2 ⟨hb, rfl⟩]
  · rintro ⟨hr, hc⟩
    cases q with
    | nil => cases hr
    | cons n p =>
      rw [resolve?_cons] at hr
      obtain ⟨b, hf, ha⟩ := Option.bind_eq_some_iff.1 hr
      obtain ⟨hb, rfl⟩ := (find?_eq_some_iff hd).1 hf
      exact ⟨b, hb, (h b hb (b.name :: p)).2 ⟨p, rfl, ha, hc⟩⟩

theorem Binding.mem_ends_of_no_entries (h : b.entries = []) :
    (q, c) ∈ b.ends ↔ ∃ p, q = b.name :: p ∧ b.at? p = some c ∧ c.entries = [] := by
  rw [b.ends_of_no_entries h, List.mem_singleton, Prod.mk.injEq]
  constructor
  · rintro ⟨rfl, rfl⟩
    exact ⟨[], rfl, rfl, h⟩
  · rintro ⟨p, rfl, ha, -⟩
    rw [at?_of_no_entries h] at ha
    by_cases hp : p = []
    · rw [if_pos hp, Option.some.injEq] at ha
      exact ⟨by rw [hp], ha.symm⟩
    · rw [if_neg hp] at ha
      cases ha

theorem Binding.Valid.mem_ends (h : b.Valid) :
    (q, c) ∈ b.ends ↔ ∃ p, q = b.name :: p ∧ b.at? p = some c ∧ c.entries = [] := by
  induction h generalizing q with
  | leaf hn hp hs => exact mem_ends_of_no_entries rfl
  | @block n es hn hv hd ih =>
    by_cases he : es = []
    · exact mem_ends_of_no_entries he
    · rw [(Binding.block n es).ends_of_entries he, List.mem_map]
      constructor
      · rintro ⟨⟨p, e⟩, hp, hq⟩
        cases hq
        obtain ⟨hr, hc⟩ := (mem_endsIn_of_ends hd fun e he q => ih e he).1 hp
        cases p with
        | nil => cases hr
        | cons m p => exact ⟨m :: p, rfl, hr, hc⟩
      · rintro ⟨p, rfl, ha, hc⟩
        cases p with
        | nil =>
          cases ha
          exact absurd hc he
        | cons m p =>
          exact ⟨(m :: p, c), (mem_endsIn_of_ends hd fun e he q => ih e he).2 ⟨ha, hc⟩, rfl⟩

theorem mem_endsIn (h : ValidBindings bs) :
    (q, c) ∈ endsIn bs ↔ resolve? bs q = some c ∧ c.entries = [] :=
  mem_endsIn_of_ends h.distinct fun b hb _ => (h.valid b hb).mem_ends

/-- Paths of two bindings stand in the order of the bindings, and paths of one binding as they do
inside it. -/
theorem pairwise_of_pairwise_ends (hd : (bs.map Binding.name).Nodup) (hv : ∀ b ∈ bs, b.Valid)
    (h : ∀ b ∈ bs, b.ends.Pairwise fun x y =>
      ∀ cs, find? b.name cs = some b → Earlier cs x.1 y.1) :
    (endsIn bs).Pairwise fun x y => Earlier bs x.1 y.1 := by
  rw [endsIn_eq_flatMap, List.pairwise_flatMap]
  refine ⟨fun b hb => ?_, List.pairwise_iff_getElem.2 fun i j hi hj hij x hx y hy => ?_⟩
  · exact (h b hb).imp fun hxy => hxy bs ((find?_eq_some_iff hd).2 ⟨hb, rfl⟩)
  · obtain ⟨p, hp, -⟩ := (hv _ (List.getElem_mem hi)).mem_ends.1 hx
    obtain ⟨q, hq, -⟩ := (hv _ (List.getElem_mem hj)).mem_ends.1 hy
    rw [hp, hq]
    refine .here ?_
    have hk (k : Nat) (hk : k < bs.length) : (bs.map Binding.name).idxOf bs[k].name = k := by
      have hk' : k < (bs.map Binding.name).length := by simpa using hk
      have := hd.idxOf_getElem k hk'
      rwa [List.getElem_map] at this
    rwa [hk i hi, hk j hj]

theorem Binding.Valid.pairwise_ends (h : b.Valid) :
    b.ends.Pairwise fun x y => ∀ cs, find? b.name cs = some b → Earlier cs x.1 y.1 := by
  induction h with
  | leaf hn hp hs => exact List.pairwise_singleton _ _
  | @block n es hn hv hd ih =>
    by_cases he : es = []
    · rw [(Binding.block n es).ends_of_no_entries he]
      exact List.pairwise_singleton _ _
    · rw [(Binding.block n es).ends_of_entries he, List.pairwise_map]
      exact (pairwise_of_pairwise_ends hd hv ih).imp fun hxy cs hc => .inside hc hxy

theorem pairwise_endsIn (h : ValidBindings bs) :
    (endsIn bs).Pairwise fun x y => Earlier bs x.1 y.1 :=
  pairwise_of_pairwise_ends h.distinct h.valid fun b hb => (h.valid b hb).pairwise_ends

end Ends

section Values

def Binding.isValue : Binding → Bool
  | .leaf _ [] _ => true
  | _ => false

mutual

theorem Binding.valuePaths_eq_map (path : List String) : (b : Binding) →
    b.valuePaths path = (b.ends.filter (·.2.isValue)).map (path ++ ·.1)
  | .leaf n [] s => rfl
  | .leaf n (p :: ps) s => rfl
  | .block n [] => rfl
  | .block n (e :: es) => by
    simp [Binding.valuePaths, valuePathsIn, Binding.ends, e.valuePaths_eq_map, valuePathsIn_eq_map _ es,
      List.filter_map, Function.comp_def]

theorem valuePathsIn_eq_map (path : List String) : (bs : List Binding) →
    valuePathsIn path bs = ((endsIn bs).filter (·.2.isValue)).map (path ++ ·.1)
  | [] => rfl
  | b :: bs => by
    rw [valuePathsIn, endsIn, b.valuePaths_eq_map, valuePathsIn_eq_map path bs, List.filter_append,
      List.map_append]

end

variable {bs : List Binding}

theorem mem_valuePathsIn (h : ValidBindings bs) {q : List String} :
    q ∈ valuePathsIn [] bs ↔ IsValue bs q := by
  rw [valuePathsIn_eq_map, List.mem_map]
  constructor
  · rintro ⟨⟨p, c⟩, hc, rfl⟩
    obtain ⟨hm, hv⟩ := List.mem_filter.1 hc
    obtain ⟨hr, -⟩ := (mem_endsIn h).1 hm
    match c, hv with
    | .leaf n [] s, _ => exact ⟨n, s, hr⟩
  · rintro ⟨n, s, hr⟩
    exact ⟨(q, .leaf n [] s), List.mem_filter.2 ⟨(mem_endsIn h).2 ⟨hr, rfl⟩, rfl⟩, rfl⟩

theorem pairwise_valuePathsIn (h : ValidBindings bs) :
    (valuePathsIn [] bs).Pairwise (Earlier bs) := by
  rw [valuePathsIn_eq_map, List.pairwise_map]
  exact (pairwise_endsIn h).filter _

end Values

end Tether
