import Tether.Proofs.Complete.Word
import Tether.Proofs.Text.Segments

/-! The dotted chain before a word: `parentPath_chain`. The dots between the chain and the word are
left out, and so are those before the chain. -/
namespace Tether.Complete
open Text

theorem isNameChar_of_isChainChar {c : Char} (h : isChainChar c) (hc : c ≠ '.') : isNameChar c := by
  simpa [isChainChar, hc] using h

theorem isChainChar_of_isNameChar {c : Char} (h : isNameChar c) : isChainChar c := by
  simp [isChainChar, h]

theorem ne_dot_of_isNameChar {c : Char} (h : isNameChar c) : c ≠ '.' := by
  rintro rfl
  revert h
  decide

/-- A text of names and dots that neither begins nor ends with a dot. -/
structure Chain (cs : List Char) : Prop where
  chars : ∀ c ∈ cs, isChainChar c
  first : ∀ c ∈ cs.head?, isNameChar c
  last : ∀ c ∈ cs.getLast?, isNameChar c

theorem chain_name {cs : List Char} (h : ∀ c ∈ cs, isNameChar c) : Chain cs :=
  ⟨fun c hc => isChainChar_of_isNameChar (h c hc), fun c hc => h c (List.mem_of_mem_head? hc),
    fun c hc => h c (List.mem_of_getLast? hc)⟩

theorem Chain.append {a b : List Char} (ha : Chain a) (hb : Chain b) (hane : a ≠ []) (hbne : b ≠ []) :
    Chain (a ++ '.' :: b) := by
  refine ⟨fun c hc => ?_, ?_, ?_⟩
  · rcases List.mem_append.1 hc with hc | hc
    · exact ha.chars c hc
    · rcases List.mem_cons.1 hc with rfl | hc
      · rfl
      · exact hb.chars c hc
  · rw [List.head?_append_of_ne_nil a hane]
    exact ha.first
  · rw [List.append_cons, List.getLast?_append_of_ne_nil (a ++ ['.']) hbne]
    exact hb.last

theorem chain_join {names : List (List Char)} (hne : names ≠ [])
    (hn : ∀ n ∈ names, n ≠ [] ∧ ∀ c ∈ n, isNameChar c) :
    Chain (join ['.'] names) ∧ join ['.'] names ≠ [] := by
  induction names with
  | nil => cases hne rfl
  | cons n ns ih =>
    obtain ⟨⟨hnn, hnc⟩, hns⟩ := List.forall_mem_cons.1 hn
    by_cases he : ns = []
    · subst he
      simpa [join] using ⟨chain_name hnc, hnn⟩
    · obtain ⟨hc, hj⟩ := ih he hns
      rw [join_cons he]
      exact ⟨(chain_name hnc).append hc hnn hj, by simp [hnn]⟩

/-- A chain between a text that does not go on with it and some dots. -/
theorem parentPath_append {lead chain : List Char} (hl : ∀ c ∈ lead.getLast?, isChainChar c = false)
    (hc : Chain chain) (hne : chain ≠ []) (dots : Nat) (rest : List Char) :
    parentPath (lead ++ chain ++ List.replicate dots '.' ++ rest)
      (bytes (lead ++ chain ++ List.replicate dots '.')) = chain := by
  have hdrop : dropEnd (· = '.') (lead ++ chain ++ List.replicate dots '.') = lead ++ chain := by
    rw [dropEnd_append_of_pos fun c hc => by simp [List.eq_of_mem_replicate hc]]
    refine dropEnd_eq_self fun c h => ?_
    rw [List.getLast?_append_of_ne_nil lead hne] at h
    simpa using ne_dot_of_isNameChar (hc.last c h)
  have htake : takeEnd isChainChar (lead ++ chain) = chain := by
    rw [takeEnd_append hc.chars, takeEnd_eq_nil_iff.2 hl, List.nil_append]
  have hfirst : chain.dropWhile (· = '.') = chain := by
    cases chain with
    | nil => rfl
    | cons c cs => simp [ne_dot_of_isNameChar (hc.first c rfl)]
  rw [parentPath, splitFloor_bytes, hdrop, htake, hfirst]

theorem chain_parentPath (cs : List Char) (n : Nat) : Chain (parentPath cs n) := by
  rw [parentPath]
  have hlast := getLast?_dropEnd (· = '.') (splitFloor cs n).1
  generalize dropEnd (· = '.') (splitFloor cs n).1 = head at hlast
  have hsuffix : (takeEnd isChainChar head).dropWhile (· = '.') <:+ head :=
    (List.dropWhile_suffix _).trans ⟨_, dropEnd_append_takeEnd isChainChar head⟩
  have hchars : ∀ c ∈ (takeEnd isChainChar head).dropWhile (· = '.'), isChainChar c :=
    fun c hc => mem_takeEnd c ((List.dropWhile_suffix _).subset hc)
  have hfirst := head?_dropWhile (· = '.') (takeEnd isChainChar head)
  generalize (takeEnd isChainChar head).dropWhile (· = '.') = chain at *
  refine ⟨hchars, fun c hc => ?_, fun c hc => ?_⟩
  · exact isNameChar_of_isChainChar (hchars c (List.mem_of_mem_head? hc)) (by simpa using hfirst c hc)
  · have hl : c ∈ head.getLast? := by
      obtain ⟨t, rfl⟩ := hsuffix
      rw [List.getLast?_append, hc]
      rfl
    exact isNameChar_of_isChainChar (hchars c (List.mem_of_getLast? hc)) (by simpa using hlast c hl)

/-- Behind names joined by dots, and some dots more, the names are the parent path, whatever stands
before them that does not go on with them, and whatever follows. At every position the parent path
is a chain, with no boundary at its ends. -/
theorem parentPath_chain :
    (∀ (lead rest : List Char) (names : List (List Char)) (dots : Nat),
      (∀ c ∈ lead.getLast?, isNameChar c = false ∧ c ≠ '.') → names ≠ [] →
      (∀ n ∈ names, n ≠ [] ∧ ∀ c ∈ n, isNameChar c) →
      let text := lead ++ join ['.'] names ++ List.replicate dots '.'
      parentPath (text ++ rest) (bytes text) = join ['.'] names) ∧
    ∀ (cs : List Char) (n : Nat), (∀ c ∈ parentPath cs n, c = '.' ∨ isNameChar c) ∧
      (∀ c ∈ (parentPath cs n).head?, c ≠ '.' ∧ isBoundary c = false) ∧
      ∀ c ∈ (parentPath cs n).getLast?, c ≠ '.' ∧ isBoundary c = false := by
  refine ⟨fun lead rest names dots hlead hne hnames => ?_, fun cs n => ?_⟩
  · obtain ⟨hc, hj⟩ := chain_join hne hnames
    have hl : ∀ c ∈ lead.getLast?, isChainChar c = false := fun c hc => by
      simp [isChainChar, hlead c hc]
    exact parentPath_append hl hc hj dots rest
  · have hc := chain_parentPath cs n
    refine ⟨fun c hm => ?_, fun c hm => ?_, fun c hm => ?_⟩
    · simpa [isChainChar] using hc.chars c hm
    · have hn := hc.first c hm
      exact ⟨ne_dot_of_isNameChar hn, not_isBoundary_of_isNameChar hn⟩
    · have hn := hc.last c hm
      exact ⟨ne_dot_of_isNameChar hn, not_isBoundary_of_isNameChar hn⟩

/-- A chain with a letter of two bytes and a hyphen, behind a parenthesis and before two dots. -/
theorem parentPath_chain_argument :
    parentPath "f(é.b-1..x".toList 10 = ['é', '.', 'b', '-', '1'] := by
  have hlead : ∀ c ∈ ['f', '('].getLast?, isNameChar c = false ∧ c ≠ '.' := by
    rintro c ⟨⟩
    decide
  have h1 : isName ['é'] := by rfl
  have h2 : isName ['b', '-', '1'] := by rfl
  have hnames : ∀ n ∈ [['é'], ['b', '-', '1']], n ≠ [] ∧ ∀ c ∈ n, isNameChar c :=
    List.forall_mem_cons.2 ⟨⟨ne_nil_of_isName h1, isNameChar_of_isName h1⟩,
      List.forall_mem_singleton.2 ⟨ne_nil_of_isName h2, isNameChar_of_isName h2⟩⟩
  exact parentPath_chain.1 ['f', '('] ['x'] [['é'], ['b', '-', '1']] 2 hlead (by simp) hnames

end Tether.Complete
