import Tether.Proofs.Document.RoundTrip

/-! The documents that stand for some text are those all of whose blocks are well formed, however
deep they are: `exists_parse_iff`. -/
namespace Tether

/-- What must hold of a binding, apart from those inside it. -/
def Binding.Formed : Binding → Prop
  | leaf name params source => isName name.toList ∧ ValidParams params ∧ source.Valid
  | block name es => isName name.toList ∧ (block name es).params = []

theorem Binding.Valid.formed {b : Binding} (h : b.Valid) : b.Formed := by
  cases h with
  | leaf hn hp hs => exact ⟨hn, hp, hs⟩
  | block hn hv hd => exact ⟨hn, rfl⟩

/-- Bindings with names of their own, each of which is formed. -/
structure FormedBlock (es : List Binding) : Prop where
  distinct : (es.map Binding.name).Nodup
  formed : ∀ b ∈ es, b.Formed

namespace Document
variable {d : Document}

/-- The blocks of a document: the outermost bindings, and what stands inside a block that is one of
the bindings of a block. -/
inductive HasBlock (d : Document) : List Binding → Prop
  | outermost : HasBlock d d.bindings
  | inside {es : List Binding} {name : String} {inner : List Binding} (h : HasBlock d es)
      (hb : .block name inner ∈ es) : HasBlock d inner

theorem HasBlock.valid {es : List Binding} (hd : ValidBindings d.bindings) (h : d.HasBlock es) :
    ValidBindings es := by
  induction h with
  | outermost => exact hd
  | inside h hb ih =>
    cases ih.valid _ hb with
    | block hn hv hd => exact ⟨hv, hd⟩

theorem valid_of_formed (hd : ∀ es, d.HasBlock es → FormedBlock es) :
    (b : Binding) → {es : List Binding} → d.HasBlock es → b ∈ es → b.Valid
  | .leaf name params source, _, h, hb => by
    obtain ⟨hn, hp, hs⟩ := (hd _ h).formed _ hb
    exact .leaf hn hp hs
  | .block name inner, _, h, hb => by
    have hi := h.inside hb
    exact .block ((hd _ h).formed _ hb).1 (fun e he => valid_of_formed hd e hi he)
      (hd _ hi).distinct

theorem validBindings_iff :
    ValidBindings d.bindings ↔ ∀ es, d.HasBlock es → FormedBlock es := by
  constructor
  · intro hd es h
    have hv := h.valid hd
    exact ⟨hv.distinct, fun b hb => (hv.valid b hb).formed⟩
  · intro hd
    exact ⟨fun b hb => valid_of_formed hd b .outermost hb, (hd _ .outermost).distinct⟩

/-- In every block of a document that was read, at any depth, no two names are alike and every
binding is formed; and every such document is read from some text. -/
theorem exists_parse_iff (d : Document) :
    (∃ src, parse src = .ok d) ↔ ∀ es, d.HasBlock es → FormedBlock es := by
  rw [← validBindings_iff]
  constructor
  · rintro ⟨src, h⟩
    exact valid_of_parse h
  · intro hd
    exact ⟨d.source, parse_source_of_valid hd⟩

end Document

end Tether
