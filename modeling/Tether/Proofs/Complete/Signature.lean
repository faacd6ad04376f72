import Tether.Complete.Signature
import Tether.Proofs.Native.Names

/-! The tables made so far do not change which signature a name has: it is the one that is found
without any tables (`Cache.find?_fst`), for one name after the other (`Cache.findAll_empty`). -/
namespace Tether.Complete.Signature

theorem ofBuiltin?_of_mem : ∀ p ∈ builtinTable, ofBuiltin? p.1 = some p.2 := by decide +kernel

theorem ofLibrary?_of_mem : ∀ p ∈ libraryTable, ofLibrary? p.1 = some p.2 := by
  intro p hp
  obtain ⟨⟨path, f⟩, hf, rfl⟩ := List.mem_map.1 hp
  have hl : Library.find? path = some (.function f) :=
    (Entry.mem_functions_iff Library.valid_tree).1 hf
  rw [ofLibrary?, hl]

theorem lookup_or {t : Table} {f : String → Option Signature} (h : ∀ p ∈ t, f p.1 = some p.2)
    (name : String) (rest : Option Signature) :
    (t.lookup name).or ((f name).or rest) = (f name).or rest := by
  cases hs : t.lookup name with
  | none => rfl
  | some s =>
    rw [h (name, s) (mem_of_lookup hs)]
    rfl

def ofName? (d : Document) (name : String) : Option Signature :=
  (ofBinding? d name).or ((ofBuiltin? name).or (ofLibrary? name))

namespace Cache

/-- The tables made so far are those of the builtins and of the library. -/
structure Exact (c : Cache) : Prop where
  builtins : ∀ t ∈ c.builtins, t = builtinTable
  library : ∀ t ∈ c.library, t = libraryTable

theorem exact_empty : empty.Exact := ⟨nofun, nofun⟩

section Exact
variable {c : Cache} (h : c.Exact)
include h

theorem withBuiltins_fst : c.withBuiltins.1 = builtinTable := by
  change c.builtins.getD builtinTable = builtinTable
  cases hb : c.builtins with
  | none => rfl
  | some t => exact h.builtins t hb

theorem withLibrary_fst : c.withLibrary.1 = libraryTable := by
  change c.library.getD libraryTable = libraryTable
  cases hl : c.library with
  | none => rfl
  | some t => exact h.library t hl

theorem exact_withBuiltins : c.withBuiltins.2.Exact where
  builtins t ht := by
    cases ht
    exact withBuiltins_fst h
  library := h.library

theorem exact_withLibrary : c.withLibrary.2.Exact where
  builtins := h.builtins
  library t ht := by
    cases ht
    exact withLibrary_fst h

theorem find?_exact (d : Document) (name : String) :
    (c.find? d name).1 = (ofBinding? d name).or ((builtinTable.lookup name).or
      ((ofBuiltin? name).or ((libraryTable.lookup name).or (ofLibrary? name)))) ∧
    (c.find? d name).2.Exact := by
  have hb := exact_withBuiltins h
  have hl := exact_withLibrary hb
  rw [find?]
  cases ofBinding? d name with
  | some s => exact ⟨rfl, h⟩
  | none =>
    dsimp only
    rw [withBuiltins_fst h]
    cases builtinTable.lookup name with
    | some s => exact ⟨rfl, hb⟩
    | none =>
      cases ofBuiltin? name with
      | some s => exact ⟨rfl, hb⟩
      | none =>
        dsimp only
        rw [withLibrary_fst hb]
        cases libraryTable.lookup name with
        | some s => exact ⟨rfl, hl⟩
        | none => exact ⟨rfl, hl⟩

theorem find?_eq_empty (d : Document) (name : String) :
    (c.find? d name).1 = (empty.find? d name).1 := by
  rw [(find?_exact h d name).1, (find?_exact exact_empty d name).1]

theorem find?_fst (d : Document) (name : String) :
    (c.find? d name).1 = (ofBinding? d name).or ((ofBuiltin? name).or (ofLibrary? name)) := by
  have hl := lookup_or ofLibrary?_of_mem name none
  rw [Option.or_none] at hl
  rw [(find?_exact h d name).1, hl, lookup_or ofBuiltin?_of_mem]

end Exact

def findAll (c : Cache) : List (Document × String) → List (Option Signature)
  | [] => []
  | (d, name) :: queries => (c.find? d name).1 :: (c.find? d name).2.findAll queries

theorem findAll_eq {c : Cache} (h : c.Exact) (queries : List (Document × String)) :
    c.findAll queries = queries.map fun q => ofName? q.1 q.2 := by
  induction queries generalizing c with
  | nil => rfl
  | cons q queries ih =>
    obtain ⟨d, name⟩ := q
    rw [findAll, List.map_cons, find?_fst h, ih (find?_exact h d name).2]
    rfl

/-- Names looked for one after the other, in any documents, have the signatures that they have
without tables. A table of a tree of namespaces, whatever its functions are, has every path that
leads to a function once, with that function, and no other path. -/
theorem findAll_empty :
    (∀ queries : List (Document × String),
      empty.findAll queries = queries.map fun q => ofName? q.1 q.2) ∧
    ∀ {α : Type} {es : List (String × Entry α)}, (Entry.group es).Valid →
      ((Entry.functions es).map Prod.fst).Nodup ∧
      ∀ path f, (path, f) ∈ Entry.functions es ↔
        Entry.at? es (Text.segments path) = some (.function f) :=
  ⟨findAll_eq exact_empty, fun h => ⟨Entry.nodup_functions h, fun _ _ => Entry.mem_functions_iff h⟩⟩

/-- A name that is a builtin's in one document and a binding's in the next one; and a function that
is named like another one, in a namespace that stands in another one. -/
theorem findAll_empty_nested :
    (empty.findAll [(⟨[]⟩, "join"), (⟨[.leaf "join" [⟨"x", false⟩] ⟨"x", .path ["x"]⟩]⟩, "join"),
      (⟨[]⟩, "math.pow"), (⟨[]⟩, "join")]).map (Option.map display) =
        [some "join(array, separator)", some "join(x)", some "math.pow(int, int)",
          some "join(array, separator)"] ∧
    ∃ es : List (String × Entry Nat), (Entry.group es).Valid ∧
      ("a.b.f", 1) ∈ Entry.functions es ∧ ("f", 2) ∈ Entry.functions es ∧
      ((Entry.functions es).map Prod.fst).Nodup ∧ ∀ f, ("a.b", f) ∉ Entry.functions es := by
  refine ⟨?_, [("a", .group [("b", .group [("f", .function 1)])]), ("f", .function 2)], ?_⟩
  · rw [findAll_empty.1]
    decide +kernel
  have hb : (Entry.group [("f", .function 1)]).Valid :=
    .group (by decide) (by decide) (by simp [Entry.Valid.function])
  have ha : (Entry.group [("b", .group [("f", .function 1)])]).Valid :=
    .group (by decide) (by decide) (by simpa using hb)
  have h : (Entry.group [("a", .group [("b", .group [("f", .function 1)])]),
      ("f", .function 2)]).Valid :=
    .group (by decide) (by decide) (by simpa [Entry.Valid.function] using ha)
  obtain ⟨hd, hm⟩ := findAll_empty.2 h
  refine ⟨h, (hm _ _).2 rfl, (hm _ _).2 rfl, hd, fun f hf => ?_⟩
  cases (hm _ _).1 hf

end Cache

end Tether.Complete.Signature
