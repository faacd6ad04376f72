import Tether.Text.Split
import Mathlib.Data.List.DropRight

/-! How trimming, words, parts and lines act on texts put together from pieces. -/
namespace Tether.Text
open Unicode (isWhite)

def Trimmed (cs : List Char) : Prop :=
  (∀ c ∈ cs.head?, isWhite c = false) ∧ ∀ c ∈ cs.getLast?, isWhite c = false

theorem trimStart_eq_self {cs : List Char} (h : ∀ c ∈ cs.head?, isWhite c = false) :
    trimStart cs = cs := by
  cases cs with
  | nil => rfl
  | cons c cs => simp [trimStart, h c rfl]

theorem dropEnd_eq_self {p : Char → Bool} {cs : List Char} (h : ∀ c ∈ cs.getLast?, p c = false) :
    dropEnd p cs = cs := by
  refine List.rdropWhile_eq_self_iff.2 fun hl => ?_
  simp [h _ (List.getLast?_eq_some_getLast hl)]

theorem takeEnd_eq_nil_iff {p : Char → Bool} {cs : List Char} :
    takeEnd p cs = [] ↔ ∀ c ∈ cs.getLast?, p c = false := by
  rcases List.eq_nil_or_concat' cs with rfl | ⟨init, c, rfl⟩
  · simp [takeEnd]
  · simp [takeEnd, List.takeWhile_cons]

theorem takeWhile_eq_nil_iff {p : Char → Bool} {cs : List Char} :
    cs.takeWhile p = [] ↔ ∀ c ∈ cs.head?, p c = false := by
  cases cs with
  | nil => simp
  | cons c cs => simp [List.takeWhile_cons]

theorem takeWhile_append_of_stop {p : Char → Bool} {cs rest : List Char} (h : ∀ c ∈ cs, p c)
    (hr : ∀ d ∈ rest.head?, p d = false) : (cs ++ rest).takeWhile p = cs := by
  rw [List.takeWhile_append_of_pos h, takeWhile_eq_nil_iff.2 hr, List.append_nil]

theorem dropWhile_append_of_stop {p : Char → Bool} {cs rest : List Char} (h : ∀ c ∈ cs, p c)
    (hr : ∀ d ∈ rest.head?, p d = false) : (cs ++ rest).dropWhile p = rest := by
  rw [List.dropWhile_append_of_pos h]
  cases rest with
  | nil => simp
  | cons d ds => simp [hr d rfl]

theorem dropEnd_append_of_pos {p : Char → Bool} {b : List Char} (h : ∀ c ∈ b, p c) (a : List Char) :
    dropEnd p (a ++ b) = dropEnd p a := by
  have hr : ∀ c ∈ b.reverse, p c := fun c hc => h c (List.mem_reverse.1 hc)
  rw [dropEnd, dropEnd, List.reverse_append, List.dropWhile_append_of_pos hr]

theorem takeEnd_append {p : Char → Bool} {a b : List Char} (hb : ∀ c ∈ b, p c) :
    takeEnd p (a ++ b) = takeEnd p a ++ b := by
  have h : ∀ c ∈ b.reverse, p c := fun c hc => hb c (List.mem_reverse.1 hc)
  rw [takeEnd, List.reverse_append, List.takeWhile_append_of_pos h]
  simp [takeEnd]

theorem mem_takeEnd {p : Char → Bool} {cs : List Char} : ∀ c ∈ takeEnd p cs, p c := by
  intro c hc
  exact List.mem_takeWhile_imp (List.mem_reverse.1 hc)

theorem trimEnd_eq_self {cs : List Char} (h : ∀ c ∈ cs.getLast?, isWhite c = false) :
    trimEnd cs = cs :=
  dropEnd_eq_self h

theorem trim_eq_self {cs : List Char} (h : Trimmed cs) : trim cs = cs := by
  rw [trim, trimStart_eq_self h.1, trimEnd_eq_self h.2]

theorem trimmed_of_forall {cs : List Char} (h : ∀ c ∈ cs, isWhite c = false) : Trimmed cs :=
  ⟨fun c hc => h c (List.mem_of_head? hc), fun c hc => h c (List.mem_of_getLast? hc)⟩

theorem trimmed_of_ends {c d : Char} (hc : isWhite c = false) (hd : isWhite d = false)
    (cs : List Char) : Trimmed (c :: (cs ++ [d])) := by
  refine ⟨by simpa using hc, ?_⟩
  rw [← List.cons_append, List.getLast?_concat]
  simpa using hd

theorem trimmed_singleton {c : Char} (h : isWhite c = false) : Trimmed [c] :=
  trimmed_of_forall (List.forall_mem_singleton.2 h)

theorem trim_append_of_white {ws : List Char} (h : ∀ c ∈ ws, isWhite c) (cs : List Char) :
    trim (ws ++ cs) = trim cs := by
  rw [trim, trim, trimStart, trimStart, List.dropWhile_append_of_pos h]

theorem trim_cons_of_white {c : Char} (h : isWhite c) (cs : List Char) :
    trim (c :: cs) = trim cs := by
  rw [trim, trim, trimStart, trimStart, List.dropWhile_cons_of_pos h]

theorem trim_concat_of_white {cs : List Char} (h : Trimmed cs) (hn : cs ≠ []) {c : Char}
    (hc : isWhite c) : trim (cs ++ [c]) = cs := by
  have hs : trimStart (cs ++ [c]) = cs ++ [c] :=
    trimStart_eq_self (by simpa [List.head?_append_of_ne_nil cs hn] using h.1)
  have he : trimEnd (cs ++ [c]) = trimEnd cs := List.rdropWhile_concat_pos isWhite cs c hc
  rw [trim, hs, he, trimEnd_eq_self h.2]

theorem head?_dropWhile (p : Char → Bool) (cs : List Char) :
    ∀ c ∈ (cs.dropWhile p).head?, p c = false := by
  intro c hc
  have h := List.head?_dropWhile_not p cs
  rw [Option.mem_def] at hc
  rwa [hc] at h

theorem head?_trimStart (cs : List Char) : ∀ c ∈ (trimStart cs).head?, isWhite c = false :=
  head?_dropWhile isWhite cs

theorem getLast?_dropEnd (p : Char → Bool) (cs : List Char) :
    ∀ c ∈ (dropEnd p cs).getLast?, p c = false := by
  intro c hc
  rw [dropEnd, ← List.rdropWhile] at hc
  have hn : List.rdropWhile p cs ≠ [] := by
    rintro he
    rw [he] at hc
    exact absurd hc (by simp)
  have h := List.rdropWhile_last_not p cs hn
  rw [List.getLast?_eq_some_getLast hn, Option.mem_some_iff] at hc
  simpa [hc] using h

theorem getLast?_trimEnd (cs : List Char) : ∀ c ∈ (trimEnd cs).getLast?, isWhite c = false :=
  getLast?_dropEnd isWhite cs

theorem trimEnd_isPrefix (cs : List Char) : trimEnd cs <+: cs := List.rdropWhile_prefix isWhite cs

theorem trim_trimmed (cs : List Char) : Trimmed (trim cs) := by
  refine ⟨fun c hc => ?_, getLast?_trimEnd _⟩
  obtain ⟨ws, hw⟩ := trimEnd_isPrefix (trimStart cs)
  refine head?_trimStart cs c ?_
  rw [← hw, List.head?_append]
  simp [show (trimEnd (trimStart cs)).head? = some c from hc]

theorem trim_sublist (cs : List Char) : (trim cs).Sublist cs :=
  (trimEnd_isPrefix _).sublist.trans (List.dropWhile_sublist isWhite)

theorem mem_of_mem_trim {c : Char} {cs : List Char} (h : c ∈ trim cs) : c ∈ cs :=
  (trim_sublist cs).subset h

def Blank (cs : List Char) : Prop := ∀ c ∈ cs, isWhite c

theorem trim_eq_nil_iff {cs : List Char} : trim cs = [] ↔ Blank cs := by
  constructor
  · intro h
    -- the first character that is not white would be left
    have hs : trimStart cs = [] := by
      by_contra hn
      have hw : isWhite ((trimStart cs).head hn) :=
        List.rdropWhile_eq_nil_iff.1 h _ (List.head_mem hn)
      simp [head?_trimStart cs _ (List.head?_eq_some_head hn)] at hw
    exact List.dropWhile_eq_nil_iff.1 hs
  · intro h
    have hs : trimStart cs = [] := List.dropWhile_eq_nil_iff.2 h
    rw [trim, hs]
    rfl

theorem isEmpty_trimString {s : String} : (trimString s).isEmpty ↔ Blank s.toList := by
  rw [trimString, String.isEmpty_iff, String.ofList_eq_empty_iff, trim_eq_nil_iff]

theorem wordsFrom_append {w : List Char} (h : ∀ c ∈ w, isWhite c = false) (cur cs : List Char) :
    wordsFrom cur (w ++ cs) = wordsFrom (w.reverse ++ cur) cs := by
  induction w generalizing cur with
  | nil => rfl
  | cons c w ih =>
    have hc := h c (by simp)
    simp [wordsFrom, hc, ih fun d hd => h d (by simp [hd])]

theorem wordsFrom_white {c : Char} (hc : isWhite c) {cur : List Char} (h : cur ≠ [])
    (cs : List Char) : wordsFrom cur (c :: cs) = cur.reverse :: wordsFrom [] cs := by
  simp [wordsFrom, hc, h]

theorem words_append {w : List Char} (h : ∀ c ∈ w, isWhite c = false) (hn : w ≠ []) {c : Char}
    (hc : isWhite c) (cs : List Char) : words (w ++ c :: cs) = w :: words cs := by
  rw [words, wordsFrom_append h, List.append_nil, wordsFrom_white hc (by simpa using hn),
    List.reverse_reverse, words]

theorem splitOnce?_append {c : Char} {a : List Char} (h : c ∉ a) (b : List Char) :
    splitOnce? c (a ++ c :: b) = some (a, b) := by
  induction a with
  | nil => simp [splitOnce?]
  | cons d a ih =>
    simp only [List.mem_cons, not_or] at h
    simp [splitOnce?, Ne.symm h.1, ih h.2]

theorem splitOnce?_eq_none {c : Char} {cs : List Char} (h : c ∉ cs) : splitOnce? c cs = none := by
  induction cs with
  | nil => rfl
  | cons d cs ih =>
    simp only [List.mem_cons, not_or] at h
    simp [splitOnce?, Ne.symm h.1, ih h.2]

theorem append_of_splitOnce? {c : Char} {cs a b : List Char} (h : splitOnce? c cs = some (a, b)) :
    cs = a ++ c :: b := by
  induction cs generalizing a with
  | nil => cases h
  | cons d cs ih =>
    rw [splitOnce?] at h
    split at h
    · next hd => cases h; simp [hd]
    · obtain ⟨⟨a', b'⟩, h', e⟩ := Option.map_eq_some_iff.1 h
      cases e
      simp [ih h']

@[simp] theorem after?_append (lead cs : List Char) : after? lead (lead ++ cs) = some cs := by
  induction lead with
  | nil => rfl
  | cons l ls ih => simp [after?, ih]

theorem after?_of_ne {c d : Char} (h : c ≠ d) (lead cs : List Char) :
    after? (c :: lead) (d :: cs) = none := by
  simp [after?, h]

@[simp] theorem before?_append (cs tail : List Char) : before? tail (cs ++ tail) = some cs := by
  simp [before?]

theorem lines_cons {c : Char} {cs l : List Char} {ls : List (List Char)} (hc : c ≠ '\n')
    (hr : c = '\r' → cs.head? ≠ some '\n') (h : lines cs = l :: ls) :
    lines (c :: cs) = (c :: l) :: ls := by
  rw [lines, h]
  · exact hc
  · rintro ds rfl rfl
    exact hr rfl rfl

theorem lines_append {l : List Char} (h : '\n' ∉ l) (hl : l.getLast? ≠ some '\r') (cs : List Char) :
    lines (l ++ '\n' :: cs) = l :: lines cs := by
  induction l with
  | nil => rfl
  | cons c l ih =>
    obtain ⟨hc, hn⟩ : '\n' ≠ c ∧ '\n' ∉ l := by simpa using h
    refine lines_cons hc.symm (fun hr => ?_) (ih hn fun he => hl (by simp [List.getLast?_cons, he]))
    cases l with
    | nil => exact absurd (congrArg some hr) hl
    | cons d l => exact fun hd => hn (List.mem_cons.2 (.inl (Option.some.inj hd).symm))

theorem lines_append_crlf {l : List Char} (h : '\n' ∉ l) (cs : List Char) :
    lines (l ++ '\r' :: '\n' :: cs) = l :: lines cs := by
  induction l with
  | nil => rfl
  | cons c l ih =>
    obtain ⟨hc, hn⟩ : '\n' ≠ c ∧ '\n' ∉ l := by simpa using h
    refine lines_cons hc.symm (fun _ => ?_) (ih hn)
    cases l with
    | nil => simp
    | cons d l => exact fun hd => hn (List.mem_cons.2 (.inl (Option.some.inj hd).symm))

theorem lines_flatMap {ls : List (List Char)}
    (h : ∀ l ∈ ls, '\n' ∉ l ∧ l.getLast? ≠ some '\r') : lines (ls.flatMap (· ++ ['\n'])) = ls := by
  induction ls with
  | nil => rfl
  | cons l ls ih =>
    obtain ⟨hn, hr⟩ := h l (by simp)
    rw [List.flatMap_cons, List.append_assoc, List.singleton_append, lines_append hn hr,
      ih fun m hm => h m (by simp [hm])]

theorem exists_lines_eq {ls : List (List Char)} (h : ∀ l ∈ ls, '\n' ∉ l) :
    ∃ src : String, lines src.toList = ls := by
  refine ⟨String.ofList (ls.flatMap (· ++ ['\r', '\n'])), ?_⟩
  rw [String.toList_ofList]
  induction ls with
  | nil => rfl
  | cons l ls ih =>
    rw [List.flatMap_cons, List.append_assoc, List.cons_append, List.singleton_append,
      lines_append_crlf (h l List.mem_cons_self), ih fun m hm => h m (List.mem_cons_of_mem l hm)]

theorem not_mem_of_mem_lines {cs : List Char} : ∀ l ∈ lines cs, '\n' ∉ l := by
  fun_induction lines cs with
  | case1 => simp
  | case2 cs ih => simpa using ih
  | case3 cs ih => simpa using ih
  | case4 c cs hc _ hl ih =>
    simpa using fun he => hc he.symm
  | case5 c cs hc _ l ls hl ih =>
    rw [hl] at ih
    intro m hm
    rcases List.mem_cons.1 hm with rfl | hm
    · simpa using ⟨fun he => hc he.symm, ih l (by simp)⟩
    · exact ih m (by simp [hm])

theorem lines_eq_nil_iff {cs : List Char} : lines cs = [] ↔ cs = [] := by
  constructor
  · fun_induction lines cs <;> simp
  · rintro rfl
    rfl

theorem lines_of_not_mem {l : List Char} (h : '\n' ∉ l) (hl : l ≠ []) : lines l = [l] := by
  fun_induction lines l with
  | case1 => exact absurd rfl hl
  | case2 => simp at h
  | case3 => simp at h
  | case4 c cs hc _ he ih => rw [lines_eq_nil_iff.1 he]
  | case5 c cs hc _ l ls he ih =>
    have hcs : cs ≠ [] := by
      rintro rfl
      cases he
    rw [ih (fun hm => h (List.mem_cons_of_mem c hm)) hcs] at he
    cases he
    rfl

def Complete (cs : List Char) : Prop := ∀ c ∈ cs.getLast?, c = '\n'

theorem Complete.tail {c : Char} {cs : List Char} (h : Complete (c :: cs)) : Complete cs := by
  cases cs with
  | nil => exact nofun
  | cons d ds => simpa [Complete] using h

theorem lines_append_of_complete {cs : List Char} (h : Complete cs) (ds : List Char) :
    lines (cs ++ ds) = lines cs ++ lines ds := by
  fun_induction lines cs with
  | case1 => rfl
  | case2 cs ih => exact congrArg _ (ih h.tail)
  | case3 cs ih => exact congrArg _ (ih h.tail.tail)
  | case4 c cs hc _ he ih =>
    cases lines_eq_nil_iff.1 he
    exact absurd (h c rfl) hc
  | case5 c cs hc hr l ls he ih =>
    have hi := ih h.tail
    rw [he, List.cons_append] at hi
    refine lines_cons hc (fun hc' => ?_) hi
    -- a line feed after `c` would already stand in the first text
    cases cs with
    | nil => cases he
    | cons d cs => exact fun hd => hr cs hc' (by rw [Option.some.inj hd])

def unfinished (cs : List Char) : List Char := takeEnd (· ≠ '\n') cs

def finished (cs : List Char) : List Char := dropEnd (· ≠ '\n') cs

theorem finished_append_unfinished (cs : List Char) : finished cs ++ unfinished cs = cs :=
  dropEnd_append_takeEnd _ cs

theorem complete_finished (cs : List Char) : Complete (finished cs) := by
  intro c hc
  simpa using getLast?_dropEnd (· ≠ '\n') cs c hc

theorem not_mem_unfinished (cs : List Char) : '\n' ∉ unfinished cs := by
  intro h
  rw [unfinished, takeEnd, List.mem_reverse] at h
  simpa using List.mem_takeWhile_imp h

theorem unfinished_eq_nil_iff {cs : List Char} : unfinished cs = [] ↔ Complete cs := by
  constructor
  · intro h
    rw [← finished_append_unfinished cs, h, List.append_nil]
    exact complete_finished cs
  · intro h
    by_contra hn
    -- the last character of the text is the last one after the last line feed
    have hl := List.getLast?_append_of_ne_nil (finished cs) hn
    rw [finished_append_unfinished] at hl
    have he := h _ (hl.trans (List.getLast?_eq_some_getLast hn))
    exact not_mem_unfinished cs (he ▸ List.getLast_mem hn)

end Tether.Text
