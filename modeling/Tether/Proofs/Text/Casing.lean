import Mathlib.Data.List.Basic
import Tether.Proofs.Text.Segments
import Tether.Text.Casing

/-! The words of a name. Those of an ASCII text are in lower case throughout (`lowered_caseWords`),
and such words are found again when they are joined by a separator (`caseWords_join`). -/
namespace Tether.Text
open Unicode (isUppercase isLowercase lowerChar)

structure Lowered (c : Char) : Prop where
  inside : isWordSeparator c = false
  small : isUppercase c = false
  image : lowerChar c = [c]

structure LoweredWord (w : List Char) : Prop where
  nonempty : w ≠ []
  chars : ∀ c ∈ w, Lowered c

def Ascii (cs : List Char) : Prop := ∀ c ∈ cs, c.toNat < 0x80

instance (cs : List Char) : Decidable (Ascii cs) :=
  List.decidableBAll (fun c : Char => c.toNat < 0x80) cs

theorem lowerChar_ascii {c : Char} (h : c.toNat < 0x80) : lowerChar c = [c.toLower] := if_pos h

theorem flatMap_lowerChar {cs : List Char} (h : Ascii cs) :
    cs.flatMap lowerChar = cs.map Char.toLower := by
  induction cs with
  | nil => rfl
  | cons c cs ih =>
    obtain ⟨hc, hcs⟩ := List.forall_mem_cons.1 h
    rw [List.flatMap_cons, lowerChar_ascii hc, ih hcs, List.map_cons, List.singleton_append]

/-- In lower case a character of ASCII is still one, and no separator if it was none. -/
theorem lowered_toLower {c : Char} (h : c.toNat < 0x80) (hs : isWordSeparator c = false) :
    Lowered c.toLower := by
  have hall : ∀ n < 0x80, isWordSeparator (Char.ofNat n) = false →
      isWordSeparator (Char.ofNat n).toLower = false ∧
        isUppercase (Char.ofNat n).toLower = false ∧
        lowerChar (Char.ofNat n).toLower = [(Char.ofNat n).toLower] := by decide
  obtain ⟨hi, hu, hl⟩ := hall c.toNat h (by rwa [Char.ofNat_toNat])
  rw [Char.ofNat_toNat] at hi hu hl
  exact ⟨hi, hu, hl⟩

section Scan
variable {done : List (List Char)} {word cs : List Char} {after : Bool}

theorem closeWord_cons {w : List Char} (h : w ≠ []) : closeWord done w.reverse = w :: done := by
  simp [closeWord, h]

theorem flatten_closeWord (done : List (List Char)) (word : List Char) :
    (closeWord done word).reverse.flatten = done.reverse.flatten ++ word.reverse := by
  unfold closeWord
  split
  next hw => simp [List.isEmpty_iff.1 hw]
  · simp

theorem lowered_closeWord (hd : ∀ w ∈ done, LoweredWord w) (hw : ∀ c ∈ word, Lowered c) :
    ∀ w ∈ closeWord done word, LoweredWord w := by
  unfold closeWord
  split
  · exact hd
  next hn =>
    refine List.forall_mem_cons.2 ⟨⟨by simpa using hn, ?_⟩, hd⟩
    exact fun c hc => hw c (List.mem_reverse.1 hc)

/-- What the scan has made of an ASCII text so far, and what it makes of the rest, is in lower
case. -/
theorem lowered_caseWordsFrom (h : Ascii cs) (hd : ∀ w ∈ done, LoweredWord w)
    (hw : ∀ c ∈ word, Lowered c) : ∀ w ∈ caseWordsFrom done word after cs, LoweredWord w := by
  induction cs generalizing done word after with
  | nil => simpa [caseWordsFrom] using lowered_closeWord hd hw
  | cons c cs ih =>
    obtain ⟨hc, hcs⟩ := List.forall_mem_cons.1 h
    have hclose := lowered_closeWord hd hw
    rw [caseWordsFrom]
    split
    · exact ih hcs hclose (List.forall_mem_nil _)
    next hs =>
      have hl := lowered_toLower hc (Bool.not_eq_true _ ▸ hs)
      rw [lowerChar_ascii hc]
      dsimp only
      split
      · exact ih hcs hclose (List.forall_mem_singleton.2 hl)
      · exact ih hcs hd (List.forall_mem_cons.2 ⟨hl, hw⟩)

theorem flatten_caseWordsFrom :
    (caseWordsFrom done word after cs).flatten = done.reverse.flatten ++ word.reverse ++
      (cs.filter fun c => !isWordSeparator c).flatMap lowerChar := by
  induction cs generalizing done word after with
  | nil => simp [caseWordsFrom, flatten_closeWord]
  | cons c cs ih =>
    rw [caseWordsFrom]
    split
    next hs => simp [ih, flatten_closeWord, hs]
    next hs =>
      dsimp only
      split <;> simp [ih, flatten_closeWord, hs]

theorem caseWordsFrom_append (done : List (List Char)) (word : List Char) (after : Bool)
    {w : List Char} (h : ∀ c ∈ w, Lowered c) (cs : List Char) : ∃ after',
      caseWordsFrom done word after (w ++ cs) =
        caseWordsFrom done (w.reverse ++ word) after' cs := by
  induction w generalizing word after with
  | nil => exact ⟨after, rfl⟩
  | cons c w ih =>
    obtain ⟨hc, hw⟩ := List.forall_mem_cons.1 h
    obtain ⟨after', ha⟩ := ih (c :: word) (isLowercase c || c.isDigit) hw
    refine ⟨after', ?_⟩
    rw [List.cons_append, caseWordsFrom, hc.inside, hc.small, hc.image]
    simpa using ha

theorem caseWordsFrom_join {sep : Char} (hs : isWordSeparator sep) {ws : List (List Char)}
    (h : ∀ w ∈ ws, LoweredWord w) :
    caseWordsFrom done [] after (join [sep] ws) = done.reverse ++ ws := by
  induction ws generalizing done after with
  | nil => simp [join, caseWordsFrom, closeWord]
  | cons w ws ih =>
    obtain ⟨⟨hn, hw⟩, hws⟩ := List.forall_mem_cons.1 h
    cases ws with
    | nil =>
      obtain ⟨after', ha⟩ := caseWordsFrom_append done [] after hw []
      rw [List.append_nil, List.append_nil] at ha
      simp [join, ha, caseWordsFrom, closeWord_cons hn]
    | cons v vs =>
      rw [join_cons (List.cons_ne_nil v vs)]
      obtain ⟨after', ha⟩ := caseWordsFrom_append done [] after hw ([sep] ++ join [sep] (v :: vs))
      rw [ha, List.append_nil, List.singleton_append, caseWordsFrom, if_pos hs, closeWord_cons hn,
        ih hws]
      simp

end Scan

theorem lowered_caseWords {cs : List Char} (h : Ascii cs) : ∀ w ∈ caseWords cs, LoweredWord w :=
  lowered_caseWordsFrom h (List.forall_mem_nil _) (List.forall_mem_nil _)

theorem flatten_caseWords {cs : List Char} (h : Ascii cs) :
    (caseWords cs).flatten = (cs.filter fun c => !isWordSeparator c).map Char.toLower := by
  have hf : Ascii (cs.filter fun c => !isWordSeparator c) := fun c hc =>
    h c (List.mem_of_mem_filter hc)
  rw [caseWords, flatten_caseWordsFrom, flatMap_lowerChar hf]
  rfl

theorem caseWords_join {sep : Char} (hs : isWordSeparator sep) {ws : List (List Char)}
    (h : ∀ w ∈ ws, LoweredWord w) : caseWords (join [sep] ws) = ws :=
  caseWordsFrom_join hs h

end Tether.Text
