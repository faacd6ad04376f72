import Tether.Complete.Ranking
import Mathlib

/-! Candidates are offered in one order: by kind, then by score, then as they came
(`Match.rank_eq_iff`). Two sorts make it, and each leaves alone what it does not tell apart. -/
namespace Tether.Complete
open Text

theorem pairwise_mergeSort_key {α β : Type} [LinearOrder β] (key : α → β) {R : α → α → Prop}
    {l : List α} (h : l.Pairwise R) :
    (l.mergeSort fun a b => key a ≤ key b).Pairwise fun a b =>
      key a < key b ∨ key a = key b ∧ R a b := by
  have trans : ∀ a b c, decide (key a ≤ key b) → decide (key b ≤ key c) →
      decide (key a ≤ key c) := by
    intro a b c
    simp only [decide_eq_true_eq]
    exact le_trans
  have total : ∀ a b, decide (key a ≤ key b) || decide (key b ≤ key a) := by
    intro a b
    simp only [Bool.or_eq_true, decide_eq_true_eq]
    exact le_total (key a) (key b)
  induction l with
  | nil => simp
  | cons a l ih =>
    obtain ⟨ha, hl⟩ := List.pairwise_cons.1 h
    -- the first item comes behind all that are less, and before the others with its key
    obtain ⟨less, rest, hs, hr, hless⟩ := List.mergeSort_cons trans total a l
    have hall := List.pairwise_mergeSort trans total (a :: l)
    rw [hs] at hall ⊢
    obtain ⟨-, hrest, -⟩ := List.pairwise_append.1 hall
    have hih := ih hl
    rw [hr] at hih
    obtain ⟨h₁, h₂, h₁₂⟩ := List.pairwise_append.1 hih
    refine List.pairwise_append.2 ⟨h₁, List.pairwise_cons.2 ⟨fun b hb => ?_, h₂⟩, ?_⟩
    · have hle : key a ≤ key b := by simpa using List.rel_of_pairwise_cons hrest hb
      have hm : b ∈ l := by
        rw [← List.mem_mergeSort, hr]
        exact List.mem_append_right less hb
      exact hle.lt_or_eq.imp id fun he => ⟨he, ha b hm⟩
    · intro b hb c hc
      rcases List.mem_cons.1 hc with rfl | hc
      · exact .inl (by simpa using hless b hb)
      · exact h₁₂ b hb c hc

/-- The byte offsets, in order, of the characters of a name that have one of the numbers. -/
structure Located (name : List Char) (numbers positions : List Nat) : Prop where
  increasing : positions.Pairwise (· < ·)
  mem_iff : ∀ p, p ∈ positions ↔
    ∃ a c b, name = a ++ c :: b ∧ a.length ∈ numbers ∧ bytes a = p

section Positions
variable {numbers : List Nat} {n start : Nat} {cs : List Char}

theorem mem_bytePositions {p : Nat} : p ∈ bytePositions numbers n start cs ↔
    ∃ a c b, cs = a ++ c :: b ∧ n + a.length ∈ numbers ∧ start + bytes a = p := by
  induction cs generalizing n start with
  | nil => simp [bytePositions]
  | cons d ds ih =>
    have hrest : p ∈ bytePositions numbers (n + 1) (start + d.utf8Size) ds ↔
        ∃ a c b, ds = a ++ c :: b ∧ n + (d :: a).length ∈ numbers ∧
          start + bytes (d :: a) = p := by
      simp only [ih, List.length_cons, bytes_cons]
      simp only [Nat.add_assoc, Nat.add_comm 1]
    have hfirst : p ∈ bytePositions numbers n start (d :: ds) ↔ n ∈ numbers ∧ start = p ∨
        p ∈ bytePositions numbers (n + 1) (start + d.utf8Size) ds := by
      rw [bytePositions]
      by_cases hn : n ∈ numbers
      · simp [hn, eq_comm]
      · simp [hn]
    rw [hfirst, hrest]
    constructor
    · rintro (⟨hn, hp⟩ | ⟨a, c, b, rfl, hn, hp⟩)
      · exact ⟨[], d, ds, rfl, hn, hp⟩
      · exact ⟨d :: a, c, b, rfl, hn, hp⟩
    · rintro ⟨a, c, b, he, hn, hp⟩
      cases a with
      | nil => exact .inl ⟨hn, hp⟩
      | cons e a =>
        cases he
        exact .inr ⟨a, c, b, rfl, hn, hp⟩

theorem pairwise_bytePositions : (bytePositions numbers n start cs).Pairwise (· < ·) := by
  induction cs generalizing n start with
  | nil => simp [bytePositions]
  | cons d ds ih =>
    have hlt : ∀ p ∈ bytePositions numbers (n + 1) (start + d.utf8Size) ds, start < p := by
      intro p hp
      obtain ⟨a, c, b, -, -, rfl⟩ := mem_bytePositions.1 hp
      have := d.utf8Size_pos
      omega
    rw [bytePositions]
    by_cases hn : numbers.contains n
    · rw [if_pos hn]
      exact List.pairwise_cons.2 ⟨hlt, ih⟩
    · rw [if_neg hn]
      exact ih

theorem located_bytePositions (numbers : List Nat) (name : List Char) :
    Located name numbers (bytePositions numbers 0 0 name) :=
  ⟨pairwise_bytePositions, fun p => by simp [mem_bytePositions]⟩

theorem Located.unique {name : List Char} {ps qs : List Nat} (hp : Located name numbers ps)
    (hq : Located name numbers qs) : ps = qs :=
  hp.increasing.eq_of_mem_iff hq.increasing fun p => (hp.mem_iff p).trans (hq.mem_iff p).symm

end Positions

namespace Match

/-- What is offered of a candidate: to a word, what the matcher finds; to the empty word, all that
follows a path. -/
inductive Offered (matcher : Matcher) (word parent : List Char) (c : Candidate) : Match → Prop
  | found {score : Int} {numbers positions : List Nat} (hw : word ≠ [])
      (hm : matcher c.name.toList word = some (score, numbers))
      (hp : Located c.name.toList numbers positions) :
      Offered matcher word parent c ⟨c, score, positions⟩
  | browsed (hw : word = []) (hp : parent ≠ []) : Offered matcher word parent c ⟨c, 0, []⟩

/-- The order of matches, each with the place of its candidate: by kind, then by score, the greatest
first, then by place. -/
def Precedes (p q : Match × Nat) : Prop :=
  p.1.candidate.kind.priority < q.1.candidate.kind.priority ∨
    p.1.candidate.kind.priority = q.1.candidate.kind.priority ∧
      (q.1.score < p.1.score ∨ p.1.score = q.1.score ∧ p.2 < q.2)

instance : Std.Irrefl Precedes where
  irrefl p := by simp [Precedes]

instance : Std.Antisymm Precedes where
  antisymm p q hpq hqp := by
    simp only [Precedes] at hpq hqp
    omega

def byScore (ms : List Match) : List Match := ms.mergeSort fun a b => b.score ≤ a.score

def offer? (matcher : Matcher) (word parent : List Char) (c : Candidate) : Option Match :=
  if word = [] then if parent = [] then none else some (unscored c) else of? matcher word c

section Rank
variable {matcher : Matcher} {word parent : List Char} {c : Candidate} {m : Match}

theorem offer?_eq_some_iff :
    offer? matcher word parent c = some m ↔ Offered matcher word parent c m := by
  constructor
  · intro h
    rw [offer?] at h
    split at h
    next hw =>
      split at h
      · cases h
      next hp =>
        cases h
        exact .browsed hw hp
    next hw =>
      obtain ⟨⟨score, numbers⟩, hm, rfl⟩ := Option.map_eq_some_iff.1 h
      exact .found hw hm (located_bytePositions numbers c.name.toList)
  · intro h
    cases h with
    | found hw hm hp =>
      rw [offer?, if_neg hw, of?, hm, hp.unique (located_bytePositions _ _)]
      rfl
    | browsed hw hp =>
      rw [offer?, if_pos hw, if_neg hp]
      rfl

theorem byScore_unscored (cs : List Candidate) : byScore (cs.map unscored) = cs.map unscored := by
  refine List.mergeSort_of_pairwise (List.pairwise_map.2 ?_)
  exact List.pairwise_of_forall fun a b => by simp [unscored]

theorem rank_eq (cs : List Candidate) : rank matcher word parent cs =
    byPriority (byScore (cs.filterMap (offer? matcher word parent))) := by
  by_cases hw : word = []
  · by_cases hp : parent = []
    · have ho : cs.filterMap (offer? matcher word parent) = [] := by
        simp [offer?, hw, hp]
      rw [ho]
      simp [rank, search, byScore, hw, hp]
    · have ho : offer? matcher word parent = some ∘ unscored := by
        funext c
        simp [offer?, hw, hp]
      rw [ho, List.filterMap_eq_map, byScore_unscored]
      simp [rank, hw, hp]
  · have ho : offer? matcher word parent = of? matcher word := by
      funext c
      rw [offer?, if_neg hw]
    rw [ho]
    simp [rank, search, byScore, hw]

/-- The two sorts, with the place of its candidate kept beside each match. -/
theorem exists_sorted {ps : List (Match × Nat)} (h : ps.Pairwise fun p q => p.2 < q.2) :
    ∃ qs : List (Match × Nat), qs.map Prod.fst = byPriority (byScore (ps.map Prod.fst)) ∧
      qs.Perm ps ∧ qs.Pairwise Precedes := by
  let score (p : Match × Nat) : Intᵒᵈ := OrderDual.toDual p.1.score
  let kind (p : Match × Nat) : Nat := p.1.candidate.kind.priority
  let qs := ps.mergeSort fun p q => score p ≤ score q
  let rs := qs.mergeSort fun p q => kind p ≤ kind q
  have hq : qs.map Prod.fst = byScore (ps.map Prod.fst) := List.map_mergeSort fun _ _ _ _ => rfl
  have hr : rs.map Prod.fst = byPriority (qs.map Prod.fst) := List.map_mergeSort fun _ _ _ _ => rfl
  refine ⟨rs, by rw [hr, hq], (List.mergeSort_perm qs _).trans (List.mergeSort_perm ps _), ?_⟩
  exact pairwise_mergeSort_key kind (pairwise_mergeSort_key score h)

def placed (matcher : Matcher) (word parent : List Char) (cs : List Candidate) :
    List (Match × Nat) :=
  cs.zipIdx.filterMap fun p => (offer? matcher word parent p.1).map (·, p.2)

theorem map_fst_placed (cs : List Candidate) : (placed matcher word parent cs).map Prod.fst =
    cs.filterMap (offer? matcher word parent) := by
  have he : (fun p : Candidate × Nat => ((offer? matcher word parent p.1).map (·, p.2)).map Prod.fst) =
      offer? matcher word parent ∘ Prod.fst := by
    funext p
    simp [Function.comp_def]
  rw [placed, List.map_filterMap, he, ← List.filterMap_map, List.zipIdx_map_fst]

theorem mem_placed {cs : List Candidate} {i : Nat} : (m, i) ∈ placed matcher word parent cs ↔
    ∃ c, cs[i]? = some c ∧ Offered matcher word parent c m := by
  simp [placed, List.mem_zipIdx_iff_getElem?, ← offer?_eq_some_iff]

theorem pairwise_placed (cs : List Candidate) :
    (placed matcher word parent cs).Pairwise fun p q => p.2 < q.2 := by
  have h : cs.zipIdx.Pairwise fun p q => p.2 < q.2 := by
    rw [← List.pairwise_map (f := Prod.snd), List.zipIdx_map_snd]
    exact List.pairwise_lt_range'
  refine h.filterMap _ fun p q hpq a ha b hb => ?_
  obtain ⟨m, -, rfl⟩ := Option.map_eq_some_iff.1 ha
  obtain ⟨n, -, rfl⟩ := Option.map_eq_some_iff.1 hb
  exact hpq

/-- The offers are those of `Offered`, in the order of `Precedes`. -/
theorem exists_ranked (matcher : Matcher) (word parent : List Char) (cs : List Candidate) :
    ∃ ps : List (Match × Nat), ps.map Prod.fst = rank matcher word parent cs ∧
      ps.Pairwise Precedes ∧
      ∀ m i, (m, i) ∈ ps ↔ ∃ c, cs[i]? = some c ∧ Offered matcher word parent c m := by
  obtain ⟨ps, hps, hperm, hsorted⟩ := exists_sorted (pairwise_placed cs)
  refine ⟨ps, ?_, hsorted, fun m i => hperm.mem_iff.trans mem_placed⟩
  rw [hps, map_fst_placed, rank_eq]

/-- What is offered, and in what order: each candidate in its place as often as the list has it, by
kind, then by score, then as they came. The empty word finds nothing, or all that follows a path. -/
theorem rank_eq_iff {cs : List Candidate} {ms : List Match} :
    rank matcher word parent cs = ms ↔ ∃ ps : List (Match × Nat), ps.map Prod.fst = ms ∧
      ps.Pairwise Precedes ∧
      ∀ m i, (m, i) ∈ ps ↔ ∃ c, cs[i]? = some c ∧ Offered matcher word parent c m := by
  obtain ⟨qs, hqs, hsorted, hmem⟩ := exists_ranked matcher word parent cs
  constructor
  · rintro rfl
    exact ⟨qs, hqs, hsorted, hmem⟩
  · rintro ⟨ps, rfl, hp, hm⟩
    have he : ps = qs := hp.eq_of_mem_iff hsorted fun (m, i) => (hm m i).trans (hmem m i).symm
    rw [he, hqs]

end Rank

example : (rank (fun name _ => some (name.length, [0])) ['m'] [] [⟨"map", .builtin, true⟩,
    ⟨"max", .value, false⟩, ⟨"m", .value, false⟩, ⟨"mad", .value, false⟩]).map Match.name =
    ["max", "mad", "m", "map"] := by
  cbv

end Match

end Tether.Complete
