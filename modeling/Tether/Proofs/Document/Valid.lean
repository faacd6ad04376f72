import Tether.Document.Reader
import Tether.Proofs.Outcome
import Tether.Proofs.Text.Split
import Tether.Proofs.Unicode.Names

/-! What every document that can be read is like: `valid_of_parse`. -/
namespace Tether

/-- Names, no two alike, of which the last one alone may be variadic. -/
structure ValidParams (ps : List Param) : Prop where
  names : ∀ p ∈ ps, isName p.name.toList
  distinct : (ps.map Param.name).Nodup
  variadic : ∀ p ∈ ps.dropLast, p.variadic = false

/-- A trimmed piece of a line, with the expression it stands for. -/
structure Source.Valid (s : Source) : Prop where
  trimmed : Text.Trimmed s.text.toList
  nonempty : s.text.toList ≠ []
  line : '\n' ∉ s.text.toList
  parsed : Expr.parse s.text.toList = .ok s.expr

inductive Binding.Valid : Binding → Prop
  | leaf {name : String} {params : List Param} {source : Source} (hn : isName name.toList)
      (hp : ValidParams params) (hs : source.Valid) : Valid (.leaf name params source)
  | block {name : String} {es : List Binding} (hn : isName name.toList)
      (hv : ∀ e ∈ es, e.Valid) (hd : (es.map Binding.name).Nodup) : Valid (.block name es)

structure ValidBindings (bs : List Binding) : Prop where
  valid : ∀ b ∈ bs, b.Valid
  distinct : (bs.map Binding.name).Nodup

theorem Binding.Valid.isName {b : Binding} (h : b.Valid) : isName b.name.toList := by
  cases h with
  | leaf hn hp hs => exact hn
  | block hn hv hd => exact hn

theorem any_name_eq_false {α : Type} {f : α → String} {xs : List α} {name : String} :
    xs.any (f · == name) = false ↔ name ∉ xs.map f := by
  simp [List.any_eq_false]

theorem ValidParams.nil : ValidParams [] := ⟨by simp, by simp, by simp⟩

theorem ValidParams.concat {ps : List Param} (h : ValidParams ps) {p : Param}
    (hl : ∀ q ∈ ps.getLast?, q.variadic = false) (hn : isName p.name.toList)
    (hd : p.name ∉ ps.map Param.name) : ValidParams (ps ++ [p]) := by
  refine ⟨?_, ?_, ?_⟩
  · simpa [or_imp, forall_and, hn] using h.names
  · rw [List.map_append, List.nodup_append]
    exact ⟨h.distinct, by simp, by simpa using fun q hq he => hd (List.mem_map.2 ⟨q, hq, he⟩)⟩
  · intro q hq
    rw [List.dropLast_concat] at hq
    rcases List.eq_nil_or_concat' ps with rfl | ⟨init, last, rfl⟩
    · simp at hq
    · rcases List.mem_append.1 hq with hq | hq
      · exact h.variadic q (by simpa using hq)
      · exact hl q (by simp [List.mem_singleton.1 hq])

theorem ValidBindings.nil : ValidBindings [] := ⟨by simp, by simp⟩

theorem ValidBindings.concat {bs : List Binding} (h : ValidBindings bs) {b : Binding}
    (hb : b.Valid) (hd : b.name ∉ bs.map Binding.name) : ValidBindings (bs ++ [b]) := by
  refine ⟨?_, ?_⟩
  · simpa [or_imp, forall_and, hb] using h.valid
  · rw [List.map_append, List.nodup_append]
    exact ⟨h.distinct, by simp, by simpa using fun c hc he => hd (List.mem_map.2 ⟨c, hc, he⟩)⟩

namespace Document

def paramOf (w : List Char) : Param :=
  match Text.after? ['.', '.', '.'] w with
  | some rest => ⟨String.ofList rest, true⟩
  | none => ⟨String.ofList w, false⟩

theorem readParams_cons (known : List Param) (w : List Char) (ws : List (List Char)) :
    readParams known (w :: ws) =
      if known.getLast?.any (·.variadic) then .error .variadicNotLast
      else if !isName (paramOf w).name.toList then .error (.invalidParam (String.ofList w))
      else if known.any (·.name == (paramOf w).name) then .error (.duplicateParam (paramOf w).name)
      else readParams (known ++ [paramOf w]) ws := by
  rw [readParams, paramOf]
  cases Text.after? ['.', '.', '.'] w <;> simp

theorem validParams_of_readParams {known ps : List Param} {ws : List (List Char)}
    (hk : ValidParams known) (h : readParams known ws = .ok ps) : ValidParams ps := by
  induction ws generalizing known with
  | nil => cases h; exact hk
  | cons w ws ih =>
    rw [readParams_cons] at h
    split at h
    · cases h
    next hl =>
      split at h
      · cases h
      next hn =>
        split at h
        · cases h
        next hd =>
          refine ih (hk.concat ?_ (by simpa using hn) ?_) h
          · intro q hq
            rw [Option.mem_def] at hq
            simpa [hq] using hl
          · exact any_name_eq_false.1 (by simpa using hd)

theorem valid_of_readHead {head : List Char} {name : String} {ps : List Param}
    (h : readHead head = .ok (name, ps)) : isName name.toList ∧ ValidParams ps := by
  rw [readHead] at h
  split at h
  · cases h
  next w ws hw =>
    split at h
    next hn =>
      obtain ⟨qs, hq, he⟩ := map_eq_ok.1 h
      cases he
      exact ⟨by simpa using hn, validParams_of_readParams .nil hq⟩
    · cases h

structure OpenBlock.Valid (b : OpenBlock) : Prop where
  name : isName b.name.toList
  before : ValidBindings b.before
  fresh : b.name ∉ b.before.map Binding.name

structure Reading.Valid (r : Reading) : Prop where
  entries : ValidBindings r.entries
  blocks : ∀ b ∈ r.blocks, b.Valid

namespace Reading

theorem not_mem_of_has {r : Reading} {name : String} (h : r.has name = false) :
    name ∉ r.entries.map Binding.name := any_name_eq_false.1 h

theorem Valid.add {r : Reading} (h : r.Valid) {b : Binding} (hb : b.Valid)
    (hd : r.has b.name = false) : (r.add b).Valid :=
  ⟨h.entries.concat hb (not_mem_of_has hd), h.blocks⟩

theorem of_blockName {r : Reading} {cs : List Char} {name : String}
    (h : r.blockName cs = .ok name) : isName name.toList ∧ r.has name = false := by
  rw [blockName] at h
  split at h
  · cases h
  next hn =>
    split at h
    · cases h
    next hd =>
      cases h
      exact ⟨by simpa using hn, by simpa using hd⟩

theorem of_leaf {r : Reading} {head body : List Char} {b : Binding}
    (h : r.leaf head body = .ok b) (hb : '\n' ∉ body) : b.Valid ∧ r.has b.name = false := by
  obtain ⟨⟨name, params⟩, hh, h⟩ := bind_eq_ok.1 h
  obtain ⟨hn, hp⟩ := valid_of_readHead hh
  dsimp only at h
  split at h
  · cases h
  next hd =>
    split at h
    · cases h
    next he =>
      split at h
      next e hx =>
        cases h
        refine ⟨.leaf hn hp ⟨?_, ?_, ?_, ?_⟩, by simpa [Binding.name] using hd⟩ <;>
          simp only [String.toList_ofList]
        · exact Text.trim_trimmed body
        · simpa using he
        · exact fun hm => hb (Text.mem_of_mem_trim hm)
        · exact hx
      · cases h

end Reading

theorem Line.mem_of_classify {raw head body : List Char}
    (h : Line.classify raw = .value head body) {c : Char} (hc : c ∈ body) : c ∈ raw := by
  unfold Line.classify at h
  dsimp only at h
  split at h
  · cases h
  split at h
  · cases h
  split at h
  next hs =>
    cases h
    refine Text.mem_of_mem_trim ?_
    rw [Text.append_of_splitOnce? hs]
    simp [hc]
  · split at h
    · cases h
    · split at h <;> cases h

namespace Reading

theorem Valid.step {r r' : Reading} (h : r.Valid) {n : Nat} {raw : List Char} (hr : '\n' ∉ raw)
    (hs : r.step n (Line.classify raw) = .ok r') : r'.Valid := by
  cases hl : Line.classify raw with
  | blank => rw [hl] at hs; cases hs; exact h
  | close =>
    rw [hl] at hs
    unfold Reading.step at hs
    dsimp only at hs
    split at hs
    · cases hs
    next b bs hb =>
      cases hs
      have hv := h.blocks b (by simp [hb])
      exact ⟨hv.before.concat (.block hv.name h.entries.valid h.entries.distinct) hv.fresh,
        fun c hc => h.blocks c (by simp [hb, hc])⟩
  | value head body =>
    rw [hl] at hs
    obtain ⟨b, hb, he⟩ := bind_eq_ok.1 hs
    cases he
    obtain ⟨hv, hd⟩ := of_leaf hb fun hm => hr (Line.mem_of_classify hl hm)
    exact h.add hv hd
  | emptyBlock name =>
    rw [hl] at hs
    obtain ⟨b, hb, he⟩ := bind_eq_ok.1 hs
    cases he
    obtain ⟨hn, hd⟩ := of_blockName hb
    exact h.add (.block hn (by simp) (by simp)) hd
  | opening name =>
    rw [hl] at hs
    obtain ⟨b, hb, he⟩ := bind_eq_ok.1 hs
    cases he
    obtain ⟨hn, hd⟩ := of_blockName hb
    refine ⟨.nil, ?_⟩
    simpa using ⟨⟨hn, h.entries, not_mem_of_has hd⟩, h.blocks⟩
  | unknown line => rw [hl] at hs; cases hs

theorem Valid.run {r r' : Reading} (h : r.Valid) {n : Nat} {ls : List (List Char)}
    (hl : ∀ l ∈ ls, '\n' ∉ l) (hr : r.run n ls = .ok r') : r'.Valid := by
  induction ls generalizing r n with
  | nil => cases hr; exact h
  | cons l ls ih =>
    rw [Reading.run] at hr
    split at hr
    next s hs => exact ih (h.step (hl l (by simp)) hs) (fun m hm => hl m (by simp [hm])) hr
    · cases hr

end Reading

theorem valid_of_parse {src : String} {d : Document} (h : parse src = .ok d) :
    ValidBindings d.bindings := by
  obtain ⟨r, hr, h⟩ := bind_eq_ok.1 h
  have hv : r.Valid := Reading.Valid.run ⟨.nil, by simp⟩ Text.not_mem_of_mem_lines hr
  split at h
  · cases h; exact hv.entries
  · cases h

end Document

end Tether
