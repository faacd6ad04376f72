import Tether.Proofs.Complete.Parameter
import Tether.Session.Listing

/-! The list of a document has a line for each leaf and each empty block, in the order of the
declarations, and the path that a line begins with leads back to what the line stands for:
`listing_enumerates`. -/
namespace Tether
open Complete
open Text (dotted segments)

def Binding.line (path : List String) (b : Binding) : String :=
  if b.isFunction then signatureText (dotted path) b.params else dotted path

theorem Param.listed_eq (p : Param) : p.listed = String.ofList p.text := by
  rw [Param.listed, Param.text]
  split
  · rw [← String.ofList_toList (s := p.name), ← String.ofList_append]
    simp
  · exact String.ofList_toList.symm

/-- The list and the hints, each with its own words for them, show functions alike. -/
theorem signatureText_eq_display (path : String) (ps : List Param) :
    signatureText path ps = Signature.display ⟨path, ps.map fun p => String.ofList p.text⟩ := by
  rw [signatureText, Signature.display, List.map_congr_left fun p _ => p.listed_eq]

/-- The path a line of the list begins with: what stands before the parameters. -/
def linePath (line : String) : String := String.ofList (line.toList.takeWhile (· != '('))

mutual

theorem Binding.listing_eq_map (path : List String) : (b : Binding) →
    b.listing path = b.ends.map fun x => x.2.line (path ++ x.1)
  | .leaf n [] s => rfl
  | .leaf n (p :: ps) s => rfl
  | .block n [] => rfl
  | .block n (e :: es) => by
    simp [Binding.listing, Binding.ends, e.listing_eq_map, listingOf_eq_map _ es, Function.comp_def]

theorem listingOf_eq_map (path : List String) : (bs : List Binding) →
    listingOf path bs = (endsIn bs).map fun x => x.2.line (path ++ x.1)
  | [] => rfl
  | b :: bs => by
    rw [listingOf, endsIn, b.listing_eq_map, listingOf_eq_map path bs, List.map_append]

end

theorem linePath_line {path : List String} (hn : ∀ n ∈ path, isName n.toList) (b : Binding) :
    linePath (b.line path) = dotted path := by
  have hp : ∀ c ∈ (dotted path).toList, c != '(' := by
    intro c hc
    rcases Text.mem_dotted hc with rfl | ⟨n, hm, hc⟩
    · decide
    · have hne : c ≠ '(' := by
        rintro rfl
        exact not_mem_of_isName (hn n hm) (by decide) hc
      simpa using hne
  have ht (rest : List Char) (hr : ∀ d ∈ rest.head?, (d != '(') = false) :
      String.ofList (((dotted path).toList ++ rest).takeWhile (· != '(')) = dotted path := by
    rw [Text.takeWhile_append_of_stop hp hr, String.ofList_toList]
  rw [linePath, Binding.line]
  split
  · simpa [signatureText] using ht ('(' :: _) (by simp)
  · simpa using ht [] (by simp)

namespace Document
open Signature
variable {d : Document} {path : List String} {b : Binding}

theorem mem_listing (hv : ValidBindings d.bindings) {line : String} :
    line ∈ d.listing ↔
      ∃ path b, d.resolve? path = some b ∧ b.entries = [] ∧ line = b.line path := by
  simp only [listing, listingOf_eq_map, List.mem_map, Prod.exists, List.nil_append, mem_endsIn hv,
    Document.resolve?, and_assoc, eq_comm]

theorem segments_linePath (hv : ValidBindings d.bindings) (hb : d.resolve? path = some b) :
    segments (linePath (b.line path)) = path := by
  have hn := isName_of_resolve? hv hb
  rw [linePath_line hn, Text.segments_dotted fun n hm => not_mem_dot_of_isName (hn n hm)]
  rintro rfl
  cases hb

theorem paths_listing (hv : ValidBindings d.bindings) :
    (d.listing.map fun line => segments (linePath line)) = (endsIn d.bindings).map Prod.fst := by
  rw [listing, listingOf_eq_map, List.map_map]
  refine List.map_congr_left fun x hx => ?_
  exact segments_linePath hv ((mem_endsIn hv).1 hx).1

theorem line_eq_display (hv : ValidBindings d.bindings) (hb : d.resolve? path = some b)
    (hf : b.isFunction) : ∃ s, ofBinding? d (dotted path) = some s ∧ b.line path = s.display := by
  cases b with
  | leaf n ps source =>
    refine ⟨_, ofBinding?_dotted hv hb, ?_⟩
    rw [Binding.line, if_pos hf, signatureText_eq_display]
    rfl
  | block n es => cases hf

/-- The paths at the start of the lines stand in the order of the declarations, those that lead to a
leaf or an empty block and no others, and each of them on one line. The line of a function is what
its signature shows, and any other line is its path. -/
theorem listing_enumerates {src : String} (h : parse src = .ok d) :
    (d.listing.map fun line => segments (linePath line)).Pairwise (Earlier d.bindings) ∧
    (∀ path b, d.resolve? path = some b → b.entries = [] →
      ∃! line, line ∈ d.listing ∧ segments (linePath line) = path) ∧
    (∀ line ∈ d.listing, ∃ b, d.resolve? (segments (linePath line)) = some b ∧ b.entries = [] ∧
      if b.isFunction then ∃ s, ofBinding? d (linePath line) = some s ∧ line = s.display
      else line = linePath line) ∧
    d.listing.Nodup := by
  have hv := valid_of_parse h
  have hp : (d.listing.map fun line => segments (linePath line)).Pairwise (Earlier d.bindings) := by
    rw [paths_listing hv, List.pairwise_map]
    exact pairwise_endsIn hv
  have hd : (d.listing.map fun line => segments (linePath line)).Nodup := by
    refine hp.imp ?_
    rintro p q hpq rfl
    exact hpq.asymm hpq
  refine ⟨hp, fun path b hb he => ?_, fun line hl => ?_, hd.of_map⟩
  · refine ⟨b.line path, ⟨(mem_listing hv).2 ⟨path, b, hb, he, rfl⟩, segments_linePath hv hb⟩, ?_⟩
    rintro line ⟨hl, hs⟩
    obtain ⟨q, c, hc, -, rfl⟩ := (mem_listing hv).1 hl
    rw [segments_linePath hv hc] at hs
    subst hs
    cases hb.symm.trans hc
    rfl
  · obtain ⟨path, b, hb, he, rfl⟩ := (mem_listing hv).1 hl
    have hn := isName_of_resolve? hv hb
    refine ⟨b, by rwa [segments_linePath hv hb], he, ?_⟩
    rw [linePath_line hn]
    split
    · exact line_eq_display hv hb ‹_›
    · exact if_neg ‹_›

/-- A value, a function in a block and an empty block behind it. -/
theorem listing_enumerates_nested : ∃ d s,
    parse "x = 1\nb \x7b\n f a ...r = a\n e \x7b\n \x7d\n\x7d" = .ok d ∧
    d.listing = ["x", "b.f(a, ...r)", "b.e"] ∧ d.listing.Nodup ∧
    [["x"], ["b", "f"], ["b", "e"]].Pairwise (Earlier d.bindings) ∧
    ofBinding? d "b.f" = some s ∧ s.display = "b.f(a, ...r)" := by
  obtain ⟨d, h, hl, hf⟩ : ∃ d, parse "x = 1\nb \x7b\n f a ...r = a\n e \x7b\n \x7d\n\x7d" = .ok d ∧
      d.listing = ["x", "b.f(a, ...r)", "b.e"] ∧
      ∀ b ∈ d.resolve? ["b", "f"], b.isFunction :=
    ⟨⟨[.leaf "x" [] ⟨"1", .int 1⟩, .block "b"
      [.leaf "f" [⟨"a", false⟩, ⟨"r", true⟩] ⟨"a", .path ["a"]⟩, .block "e" []]]⟩,
      by cbv, by rfl, fun b hb => by cases hb; rfl⟩
  have he : linePath "b.f(a, ...r)" = "b.f" := by rfl
  obtain ⟨hp, -, hs, hn⟩ := listing_enumerates h
  rw [hl] at hp
  obtain ⟨b, hb, -, hx⟩ := hs "b.f(a, ...r)" (by simp [hl])
  rw [he] at hb hx
  rw [if_pos (hf b hb)] at hx
  obtain ⟨s, hs, hd⟩ := hx
  exact ⟨d, s, h, hl, hn, hp, hs, hd.symm⟩

end Document

end Tether
