import Tether.Document.Printer
import Tether.Proofs.Document.Valid
import Mathlib

/-! Reading undoes writing: a valid document is read back from its text, and so is every document
that was read from a text. -/
namespace Tether
open Text (Trimmed)
open Unicode (isWhite)

theorem white_of_mem_indent (depth : Nat) : ∀ c ∈ indent depth, isWhite c := by
  intro c hc
  rw [List.eq_of_mem_replicate hc]
  decide

theorem trim_indent_append {core : List Char} (h : Trimmed core) (depth : Nat) :
    Text.trim (indent depth ++ core) = core := by
  rw [Text.trim_append_of_white (white_of_mem_indent depth), Text.trim_eq_self h]

theorem head?_append_of_isName {name : List Char} (h : isName name) (cs : List Char) :
    ∀ c ∈ (name ++ cs).head?, isNameChar c := by
  cases name with
  | nil => exact absurd h (by decide)
  | cons d ds =>
    intro c hc
    exact isNameChar_of_isName h c (by simpa using Or.inl (Option.mem_some_iff.1 hc).symm)

namespace Param

theorem isWhite_text {p : Param} (h : isName p.name.toList) : ∀ c ∈ p.text, isWhite c = false := by
  have hn := not_white_of_isName h
  rw [text]
  split
  · simpa using ⟨by decide, hn⟩
  · exact hn

theorem text_ne_nil {p : Param} (h : isName p.name.toList) : p.text ≠ [] := by
  rw [text]
  split
  · simp
  · exact ne_nil_of_isName h

end Param

namespace Document

theorem paramOf_text {p : Param} (h : isName p.name.toList) : paramOf p.text = p := by
  rcases p with ⟨name, variadic⟩
  cases variadic with
  | true =>
    have ha : Text.after? ['.', '.', '.'] ('.' :: '.' :: '.' :: name.toList) = some name.toList :=
      Text.after?_append ['.', '.', '.'] name.toList
    simp [Param.text, paramOf, ha]
  | false =>
    have ha : Text.after? ['.', '.', '.'] name.toList = none := by
      obtain ⟨c, cs, hc⟩ := List.exists_cons_of_ne_nil (ne_nil_of_isName h)
      have hd : '.' ≠ c := by
        rintro rfl
        exact not_mem_of_isName h (by decide : isNameChar '.' = false) (by simp [hc])
      rw [hc, Text.after?_of_ne hd]
    simp [Param.text, paramOf, ha]

theorem readParams_text {known ps : List Param} (h : ValidParams (known ++ ps)) :
    readParams known (ps.map Param.text) = .ok (known ++ ps) := by
  induction ps generalizing known with
  | nil => simp [readParams]
  | cons p ps ih =>
    have hn : isName p.name.toList := h.names p (by simp)
    have hl : known.getLast?.any (·.variadic) = false := by
      cases hk : known.getLast? with
      | none => rfl
      | some q =>
        refine h.variadic q ?_
        rw [List.dropLast_append_of_ne_nil (by simp)]
        exact List.mem_append_left _ (List.mem_of_getLast? hk)
    have hd : known.any (·.name == p.name) = false := by
      refine any_name_eq_false.2 fun hm => ?_
      have hk := h.distinct
      rw [List.map_append, List.nodup_append] at hk
      exact hk.2.2 _ hm _ (by simp) rfl
    rw [List.map_cons, readParams_cons, paramOf_text hn, hl, hd]
    have hp : ValidParams (known ++ [p] ++ ps) := by simpa using h
    simpa [hn] using ih hp

theorem words_append_params {w : List Char} (hw : ∀ c ∈ w, isWhite c = false) (hn : w ≠ [])
    {ps : List Param} (h : ∀ p ∈ ps, isName p.name.toList) :
    Text.words (w ++ (ps.flatMap fun p => ' ' :: p.text) ++ [' ']) = w :: ps.map Param.text := by
  have hs : isWhite ' ' := by decide
  induction ps generalizing w with
  | nil => simpa [Text.words, Text.wordsFrom] using Text.words_append hw hn hs []
  | cons p ps ih =>
    have hp := h p (by simp)
    have ht := ih (Param.isWhite_text hp) (Param.text_ne_nil hp) fun q hq => h q (by simp [hq])
    simp only [List.flatMap_cons, List.cons_append, List.append_assoc] at ht ⊢
    rw [Text.words_append hw hn hs, ht, List.map_cons]

theorem readHead_headText {name : String} (hn : isName name.toList) {ps : List Param}
    (hp : ValidParams ps) : readHead (headText name ps ++ [' ']) = .ok (name, ps) := by
  have hr : readParams [] (ps.map Param.text) = .ok ps := readParams_text hp
  rw [readHead, headText, words_append_params (not_white_of_isName hn) (ne_nil_of_isName hn) hp.names]
  simp [hn, hr, Except.map]

/-- What a line without white space around it is for, blank lines, comments and closing braces
apart. -/
def Line.ofCore (core : List Char) : Line :=
  match Text.splitOnce? '=' core with
  | some (head, body) => .value head body
  | none =>
    match Text.before? ['\x7b', '\x7d'] core with
    | some head => .emptyBlock (Text.trim head)
    | none =>
      match Text.before? ['\x7b'] core with
      | some head => .opening (Text.trim head)
      | none => .unknown core

theorem Line.classify_indent {core : List Char} (hn : core ≠ [])
    (hs : ∀ c ∈ core.head?, isNameChar c) (hl : ∀ c ∈ core.getLast?, isWhite c = false)
    (depth : Nat) : classify (indent depth ++ core) = ofCore core := by
  have ht : Trimmed core := ⟨fun c hc => not_white_of_isNameChar (hs c hc), hl⟩
  have hh : core.head? ≠ some '#' := fun he => absurd (hs _ he) (by decide)
  have hb : core ≠ ['\x7d'] := by
    rintro rfl
    exact absurd (hs '\x7d' rfl) (by decide)
  simp only [classify, trim_indent_append ht]
  rw [if_neg (by simpa [hn] using hh), if_neg hb]
  rfl

theorem Line.classify_close (depth : Nat) : classify (indent depth ++ ['\x7d']) = .close := by
  have ht : Trimmed ['\x7d'] := Text.trimmed_singleton (by decide)
  simp [classify, trim_indent_append ht]

variable {name : String}

theorem not_mem_headText (hn : isName name.toList) {ps : List Param} (hp : ValidParams ps)
    {c : Char} (hc : isNameChar c = false) (hs : c ≠ ' ') (hd : c ≠ '.') :
    c ∉ headText name ps := by
  have hq : ∀ p ∈ ps, c ∉ p.text := by
    intro p hp'
    have hm := not_mem_of_isName (hp.names p hp') hc
    rw [Param.text]
    split <;> simp [hm, hd]
  simpa [headText, not_mem_of_isName hn hc, hs] using hq

theorem Line.classify_value (hn : isName name.toList) {ps : List Param} (hp : ValidParams ps)
    {s : Source} (hs : s.Valid) (depth : Nat) :
    classify (indent depth ++ headText name ps ++ [' ', '=', ' '] ++ s.text.toList) =
      .value (headText name ps ++ [' ']) (' ' :: s.text.toList) := by
  have he : '=' ∉ headText name ps ++ [' '] := by
    simpa using not_mem_headText hn hp (by decide : isNameChar '=' = false) (by decide) (by decide)
  have hcore : indent depth ++ headText name ps ++ [' ', '=', ' '] ++ s.text.toList =
      indent depth ++ ((headText name ps ++ [' ']) ++ '=' :: ' ' :: s.text.toList) := by simp
  rw [hcore, Line.classify_indent, ofCore, Text.splitOnce?_append he]
  · simp
  · rw [headText, List.append_assoc, List.append_assoc]
    exact head?_append_of_isName hn _
  · intro c hl
    refine hs.trimmed.2 c ?_
    rwa [List.append_cons, List.append_cons, List.getLast?_append_of_ne_nil _ hs.nonempty] at hl

theorem trim_name_space (hn : isName name.toList) : Text.trim (name.toList ++ [' ']) = name.toList :=
  Text.trim_concat_of_white
    ⟨fun c hc => not_white_of_isName hn c (List.mem_of_head? hc),
      fun c hc => not_white_of_isName hn c (List.mem_of_getLast? hc)⟩
    (ne_nil_of_isName hn) (by decide)

theorem Line.classify_emptyBlock (hn : isName name.toList) (depth : Nat) :
    classify (indent depth ++ name.toList ++ [' ', '\x7b', '\x7d']) = .emptyBlock name.toList := by
  have he := not_mem_of_isName hn (by decide : isNameChar '=' = false)
  have hb : Text.before? ['\x7b', '\x7d'] (name.toList ++ [' ', '\x7b', '\x7d']) =
      some (name.toList ++ [' ']) := by
    simpa using Text.before?_append (name.toList ++ [' ']) ['\x7b', '\x7d']
  rw [List.append_assoc, classify_indent (by simp) (head?_append_of_isName hn _) (by simp; decide),
    ofCore, Text.splitOnce?_eq_none (by simpa using he)]
  simp only [hb, trim_name_space hn]

theorem Line.classify_opening (hn : isName name.toList) (depth : Nat) :
    classify (indent depth ++ name.toList ++ [' ', '\x7b']) = .opening name.toList := by
  have he := not_mem_of_isName hn (by decide : isNameChar '=' = false)
  have hb : Text.before? ['\x7b', '\x7d'] (name.toList ++ [' ', '\x7b']) = none := by
    simp [Text.before?, Text.after?]
  have ho : Text.before? ['\x7b'] (name.toList ++ [' ', '\x7b']) = some (name.toList ++ [' ']) := by
    simpa using Text.before?_append (name.toList ++ [' ']) ['\x7b']
  rw [List.append_assoc, classify_indent (by simp) (head?_append_of_isName hn _) (by simp; decide),
    ofCore, Text.splitOnce?_eq_none (by simpa using he)]
  simp only [hb, ho, trim_name_space hn]

namespace Reading

theorem blockName_eq {r : Reading} (hn : isName name.toList) (hd : r.has name = false) :
    r.blockName name.toList = .ok name := by
  simp [blockName, hn, hd]

theorem leaf_eq {r : Reading} (hn : isName name.toList) {ps : List Param} (hp : ValidParams ps)
    {s : Source} (hs : s.Valid) (hd : r.has name = false) :
    r.leaf (headText name ps ++ [' ']) (' ' :: s.text.toList) = .ok (.leaf name ps s) := by
  have ht : Text.trim (' ' :: s.text.toList) = s.text.toList := by
    rw [Text.trim_cons_of_white (by decide), Text.trim_eq_self hs.trimmed]
  simp [leaf, readHead_headText hn hp, hd, ht, hs.nonempty, hs.parsed]

theorem run_cons {r s : Reading} {n : Nat} {l : List Char} (ls : List (List Char))
    (h : r.step n (Line.classify l) = .ok s) : r.run n (l :: ls) = s.run (n + 1) ls := by
  rw [run, h]

/-- What reading some lines does when they are a binding's: it comes after those before it. -/
def Reads (b : Binding) : Prop :=
  ∀ (depth n : Nat) (r : Reading) (ls : List (List Char)), r.has b.name = false →
    ∃ m, r.run n (b.lines depth ++ ls) = (r.add b).run m ls

theorem run_linesOf {bs : List Binding} (h : ∀ b ∈ bs, Reads b) (depth n : Nat) (r : Reading)
    (ls : List (List Char)) (hd : ((r.entries ++ bs).map Binding.name).Nodup) :
    ∃ m, r.run n (linesOf depth bs ++ ls) = run ⟨r.entries ++ bs, r.blocks⟩ m ls := by
  induction bs generalizing n r with
  | nil => exact ⟨n, by simp [linesOf]⟩
  | cons b bs ih =>
    have hb : r.has b.name = false := by
      refine any_name_eq_false.2 fun hm => ?_
      rw [List.map_append, List.nodup_append] at hd
      exact hd.2.2 _ hm _ (by simp) rfl
    obtain ⟨m, hm⟩ := h b (by simp) depth n r (linesOf depth bs ++ ls) hb
    obtain ⟨k, hk⟩ := ih (fun c hc => h c (by simp [hc])) m (r.add b) (by simpa [add] using hd)
    exact ⟨k, by rw [linesOf, List.append_assoc, hm, hk]; simp [add]⟩

theorem reads_of_valid {b : Binding} (h : b.Valid) : Reads b := by
  induction h with
  | leaf hn hp hs =>
    intro depth n r ls hd
    refine ⟨n + 1, ?_⟩
    rw [Binding.lines, List.singleton_append, run_cons]
    rw [Line.classify_value hn hp hs, step, leaf_eq hn hp hs hd]
    rfl
  | @block name es hn hv hd ih =>
    intro depth n r ls hr
    cases es with
    | nil =>
      refine ⟨n + 1, ?_⟩
      rw [Binding.lines, List.singleton_append, run_cons]
      rw [Line.classify_emptyBlock hn, step, blockName_eq hn hr]
      rfl
    | cons e es =>
      -- the block is open while its bindings are read
      obtain ⟨m, hm⟩ := run_linesOf ih (depth + 1) (n + 1) ⟨[], ⟨name, n, r.entries⟩ :: r.blocks⟩
        ((indent depth ++ ['\x7d']) :: ls) hd
      refine ⟨m + 1, ?_⟩
      rw [Binding.lines, List.cons_append, run_cons (s := ⟨[], ⟨name, n, r.entries⟩ :: r.blocks⟩)]
      · rw [linesOf] at hm
        rw [List.append_assoc, List.singleton_append, hm, run_cons]
        rw [Line.classify_close]
        rfl
      · rw [Line.classify_opening hn, step, blockName_eq hn hr]
        rfl

end Reading

/-- No line feed inside, and no carriage return that would join the one after the line. -/
def OneLine (l : List Char) : Prop := '\n' ∉ l ∧ l.getLast? ≠ some '\r'

theorem not_mem_indent (depth : Nat) : '\n' ∉ indent depth := by
  intro hm
  exact absurd (List.eq_of_mem_replicate hm) (by decide)

theorem oneLine_value (hn : isName name.toList) {ps : List Param} (hp : ValidParams ps)
    {s : Source} (hs : s.Valid) (depth : Nat) :
    OneLine (indent depth ++ headText name ps ++ [' ', '=', ' '] ++ s.text.toList) := by
  refine ⟨?_, fun hl => ?_⟩
  · simp [not_mem_indent, not_mem_headText hn hp (by decide : isNameChar '\n' = false), hs.line]
  · rw [List.getLast?_append_of_ne_nil _ hs.nonempty] at hl
    exact absurd (hs.trimmed.2 _ hl) (by decide)

theorem oneLine_brace (hn : isName name.toList) (tail : List Char) (ht : '\n' ∉ tail)
    (hl : tail.getLast? ≠ some '\r') (hne : tail ≠ []) (depth : Nat) :
    OneLine (indent depth ++ name.toList ++ tail) := by
  refine ⟨?_, by rwa [List.getLast?_append_of_ne_nil _ hne]⟩
  simp [not_mem_indent, not_mem_of_isName hn (by decide : isNameChar '\n' = false), ht]

theorem oneLine_linesOf {bs : List Binding} {depth : Nat}
    (h : ∀ b ∈ bs, ∀ l ∈ b.lines depth, OneLine l) : ∀ l ∈ linesOf depth bs, OneLine l := by
  induction bs with
  | nil => simp [linesOf]
  | cons b bs ih =>
    intro l hl
    rcases List.mem_append.1 hl with hl | hl
    · exact h b (by simp) l hl
    · exact ih (fun c hc => h c (by simp [hc])) l hl

theorem oneLine_lines {b : Binding} (h : b.Valid) (depth : Nat) :
    ∀ l ∈ b.lines depth, OneLine l := by
  induction h generalizing depth with
  | leaf hn hp hs => simpa [Binding.lines] using oneLine_value hn hp hs depth
  | @block name es hn hv hd ih =>
    cases es with
    | nil =>
      simpa [Binding.lines] using
        oneLine_brace hn [' ', '\x7b', '\x7d'] (by decide) (by decide) (by decide) depth
    | cons e es =>
      have hes := oneLine_linesOf fun b hb => ih b hb (depth + 1)
      intro l hl
      rw [linesOf] at hes
      rw [Binding.lines, List.mem_cons, List.mem_append] at hl
      rcases hl with rfl | hl | hl
      · exact oneLine_brace hn _ (by decide) (by decide) (by decide) depth
      · exact hes l hl
      · rw [List.mem_singleton.1 hl]
        exact ⟨by simp [not_mem_indent], by simp⟩

theorem mem_source {b : Binding} {bs : List Binding} {c : Char} (hc : c ∈ b.name.toList) :
    c ∈ (mk (b :: bs)).source.toList := by
  rw [source, String.toList_ofList, List.mem_flatMap]
  cases b with
  | leaf name params source =>
    refine ⟨_, List.mem_append_left _ (List.mem_singleton_self _), ?_⟩
    simp [headText, show c ∈ name.toList from hc]
  | block name es =>
    cases es with
    | nil =>
      refine ⟨_, List.mem_append_left _ (List.mem_singleton_self _), ?_⟩
      simp [show c ∈ name.toList from hc]
    | cons e es =>
      refine ⟨_, List.mem_append_left _ (List.mem_cons_self ..), ?_⟩
      simp [show c ∈ name.toList from hc]

theorem blank_source {d : Document} (h : ValidBindings d.bindings) :
    Text.Blank d.source.toList ↔ d.bindings = [] := by
  obtain ⟨_ | ⟨b, bs⟩⟩ := d
  · simp [Text.Blank, source, linesOf]
  · simp only [reduceCtorEq, iff_false]
    intro hb
    have hn : isName b.name.toList := (h.valid b (by simp)).isName
    obtain ⟨c, cs, hc⟩ := List.exists_cons_of_ne_nil (ne_nil_of_isName hn)
    have hm : c ∈ b.name.toList := by simp [hc]
    have hw := hb c (mem_source hm)
    rw [not_white_of_isName hn c hm] at hw
    cases hw

theorem parse_source_of_valid {d : Document} (h : ValidBindings d.bindings) :
    parse d.source = .ok d := by
  have hl := oneLine_linesOf fun b hb => oneLine_lines (h.valid b hb) 0
  obtain ⟨m, hm⟩ := Reading.run_linesOf (fun b hb => Reading.reads_of_valid (h.valid b hb)) 0 1
    ⟨[], []⟩ [] h.distinct
  rw [List.append_nil, List.nil_append] at hm
  rw [parse, source, String.toList_ofList, Text.lines_flatMap hl, hm]
  rfl

/-- Writing a document that was read, and reading that again, gives the same document. -/
theorem parse_source {src : String} {d : Document} (h : parse src = .ok d) :
    parse d.source = .ok d :=
  parse_source_of_valid (valid_of_parse h)

/-- Blanks, comments, carriage returns, and an equals sign and braces inside a value. -/
theorem parse_source_layout :
    let d : Document := ⟨[
      .leaf "a" [⟨"xs", true⟩] ⟨"xs == \"\x7b= \x7d\"",
        .binary .eq (.path ["xs"]) (.str "\x7b= \x7d")⟩,
      .block "b" [.block "c" []]]⟩
    parse "# note\r\n\n a  ...xs=\t xs == \"\x7b= \x7d\" \r\n b \x7b\n c\x7b\x7d\n  \x7d" = .ok d ∧
      parse d.source = .ok d := by
  intro d
  have h : parse
      "# note\r\n\n a  ...xs=\t xs == \"\x7b= \x7d\" \r\n b \x7b\n c\x7b\x7d\n  \x7d" = .ok d := by cbv
  exact ⟨h, parse_source h⟩

end Document

end Tether
