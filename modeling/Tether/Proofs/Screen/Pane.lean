import Tether.Screen.Pane
import Tether.Proofs.Screen.Terminal

/-! The cursor behind the input is in the area exactly when it is laid out at all and the rows that
are counted for scrolling are near enough to those that are laid out: `showsCursor_iff`. All of this
holds of every lawful typesetter. -/
namespace Tether.Screen

/-- A cursor with no character under it. -/
def cursorCell : Cell := ⟨[' '], cursorStyle⟩

theorem exists_mem_take_drop {α : Type} {P : α → Prop} {xs : List α} {x : α}
    (hxs : ∀ y ∈ xs, ¬ P y) (hx : P x) (start room : Nat) :
    (∃ y ∈ ((xs ++ [x]).drop start).take room, P y) ↔
      start < (xs ++ [x]).length ∧ (xs ++ [x]).length - room ≤ start := by
  have hlen : (xs ++ [x]).length = xs.length + 1 := by simp
  constructor
  · rintro ⟨y, hy, hp⟩
    obtain ⟨i, hi, rfl⟩ := List.mem_take_iff_getElem.1 hy
    rw [List.getElem_drop] at hp
    rw [List.length_drop] at hi
    by_cases hs : start + i < xs.length
    · rw [List.getElem_append_left hs] at hp
      exact absurd hp (hxs _ (List.getElem_mem hs))
    · omega
  · rintro ⟨hs, hr⟩
    refine ⟨x, List.mem_take_iff_getElem.2 ⟨xs.length - start, ?_, ?_⟩, hx⟩
    · rw [List.length_drop]
      omega
    · simp [List.getElem_drop, show start + (xs.length - start) = xs.length by omega]

/-- A part of a list that has its last element, which is nowhere else in it, ends in that one. -/
theorem exists_concat_of_sublist {α : Type} {xs ys : List α} {x : α} (hs : ys.Sublist (xs ++ [x]))
    (hx : x ∉ xs) (hy : x ∈ ys) : ∃ zs, ys = zs ++ [x] ∧ x ∉ zs := by
  obtain ⟨zs, last, rfl, hz, hl⟩ := List.sublist_append_iff.1 hs
  have hn : x ∉ zs := fun h => hx (hz.subset h)
  rcases List.sublist_singleton.1 hl with rfl | rfl
  · exact absurd (by simpa using hy) hn
  · exact ⟨zs, rfl, hn⟩

def Bare (line : List Span) : Prop := ∀ s ∈ line, s.style ≠ cursorStyle

theorem style_prompt (mode : Mode) : (prompt mode).style ≠ cursorStyle := by
  cases mode <;> decide

theorem style_outputStyle (e : TranscriptEntry) : outputStyle e ≠ cursorStyle := by
  rw [outputStyle]
  split
  · decide
  · split <;> decide

theorem bare_inputLine (mode : Mode) (text : List Char) : Bare [prompt mode, .plain text] := by
  simpa [Bare] using ⟨style_prompt mode, show Style.plain ≠ cursorStyle by decide⟩

theorem bare_entryLines (e : TranscriptEntry) {l : List Span} (h : l ∈ entryLines e) : Bare l := by
  rcases List.mem_append.1 h with h | h
  · obtain ⟨⟨mode, text⟩, -, rfl⟩ := Option.map_eq_some_iff.1 (Option.mem_toList.1 h)
    exact bare_inputLine mode text.toList
  · cases ho : e.output with
    | none =>
      rw [ho] at h
      cases h
    | some text =>
      rw [ho] at h
      obtain ⟨t, -, rfl⟩ := List.mem_map.1 h
      simpa [Bare] using style_outputStyle e

namespace Typesetter
variable {t : Typesetter}

theorem style_of_mem_cells {line : List Span} (h : Bare line) {c : Cell} (hc : c ∈ t.cells line) :
    c.style ≠ cursorStyle := by
  obtain ⟨s, hs, hc⟩ := List.mem_flatMap.1 hc
  obtain ⟨g, -, rfl⟩ := List.mem_map.1 hc
  exact h s hs

section Lawful
variable (ht : t.Lawful) {width : Nat} (hw : 0 < width)
include ht hw

theorem Lawful.mem_cells {line : List Span} {r : List Cell} (hr : r ∈ t.rows width line) {c : Cell}
    (hc : c ∈ r) : c ∈ t.cells line :=
  (ht.ordered hw line).subset (List.mem_flatten.2 ⟨r, hr, hc⟩)

/-- What is last in a line and nowhere else can only be laid out on the last of its rows. -/
theorem Lawful.exists_last {line : List Span} {cs : List Cell} {c : Cell}
    (hl : t.cells line = cs ++ [c]) (hn : c ∉ cs) (h : ∃ r ∈ t.rows width line, c ∈ r) :
    ∃ rows row, t.rows width line = rows ++ [row] ∧ c ∈ row ∧ ∀ r ∈ rows, c ∉ r := by
  have hm : c ∈ (t.rows width line).flatten := List.mem_flatten.2 h
  obtain ⟨zs, hz, hzn⟩ := exists_concat_of_sublist (hl ▸ ht.ordered hw line) hn hm
  obtain hx | ⟨rows, row, hx⟩ := List.eq_nil_or_concat (t.rows width line)
  · rw [hx] at hm
    cases hm
  obtain rfl | ⟨row, d, rfl⟩ := List.eq_nil_or_concat row
  · rw [ht.filled hw (by simp [hx])] at hm
    simp at hm
  have he : (rows.flatten ++ row) ++ [d] = zs ++ [c] := by
    rw [← hz, hx]
    simp
  obtain ⟨hrows, hd⟩ := List.append_inj' he rfl
  obtain rfl := List.singleton_inj.1 hd
  refine ⟨rows, row ++ [d], by simpa using hx, by simp, fun r hr hc => hzn ?_⟩
  rw [← hrows]
  exact List.mem_append_left _ (List.mem_flatten.2 ⟨r, hr, hc⟩)

end Lawful

end Typesetter

namespace Pane

def ofInput (entries : List TranscriptEntry) (mode : Mode) (input : List Char) : Pane :=
  ⟨entries, mode, input, Text.bytes input⟩

def beforeCursor (mode : Mode) (input : List Char) : List Span :=
  prompt mode :: if input.isEmpty then [] else [.plain input]

def linesAtEnd (entries : List TranscriptEntry) (mode : Mode) (input : List Char) :
    List (List Span) :=
  entries.flatMap entryLines ++ [liveLine mode input []]

def ShowsCursor (t : Typesetter) (p : Pane) (width height : Nat) : Prop :=
  ∃ area, p.drawWith? t width height = some area ∧ ∃ r ∈ area, ∃ c ∈ r, c.style = cursorStyle

instance (t : Typesetter) (p : Pane) (width height : Nat) :
    Decidable (p.ShowsCursor t width height) :=
  decidable_of_iff
    (((p.drawWith? t width height).getD []).any fun r => r.any fun c => c.style = cursorStyle)
    (by rw [ShowsCursor]; cases p.drawWith? t width height <;> simp)

variable (t : Typesetter) (entries : List TranscriptEntry) (mode : Mode) (input : List Char)
  (width height : Nat)

/-- Whether the cursor behind the input is laid out, and not lost where a row ends. -/
def HasCursor : Prop := ∃ r ∈ t.rows width (liveLine mode input []), cursorCell ∈ r

/-- The rows that are scrolled away for the cursor behind the input. -/
def scrollAtEnd : Nat := scroll t width height (linesAtEnd entries mode input)

def heightAtEnd : Nat := (t.laidOut width (linesAtEnd entries mode input)).length

theorem drawWith?_ofInput : (ofInput entries mode input).drawWith? t width height =
    t.draw? (scrollAtEnd t entries mode input width height) width height
      (linesAtEnd entries mode input) := by
  have h := Text.splitAt?_append input []
  rw [List.append_nil] at h
  rw [drawWith?, lines?, ofInput, Nat.min_self, h]
  rfl

theorem bare_beforeCursor : Bare (beforeCursor mode input) := by
  have h := bare_inputLine mode input
  rw [beforeCursor]
  split
  · exact fun s hs => h s (by simp_all)
  · exact h

variable {t width}

theorem laidOut_linesAtEnd : t.laidOut width (linesAtEnd entries mode input) =
    t.laidOut width (entries.flatMap entryLines) ++ t.rows width (liveLine mode input []) := by
  simp [Typesetter.laidOut, linesAtEnd]

section Lawful
variable (ht : t.Lawful) (hw : 0 < width)
include ht

theorem cells_liveLine :
    t.cells (liveLine mode input []) = t.cells (beforeCursor mode input) ++ [cursorCell] := by
  have hl : liveLine mode input [] = beforeCursor mode input ++ [⟨[' '], cursorStyle⟩] := rfl
  rw [hl, Typesetter.cells, List.flatMap_append, List.flatMap_singleton, ht.blank]
  rfl

include hw

theorem style_of_mem_laidOut {r : List Cell}
    (hr : r ∈ t.laidOut width (entries.flatMap entryLines)) {c : Cell} (hc : c ∈ r) :
    c.style ≠ cursorStyle := by
  obtain ⟨l, hl, hr⟩ := List.mem_flatMap.1 hr
  obtain ⟨e, -, hl⟩ := List.mem_flatMap.1 hl
  exact Typesetter.style_of_mem_cells (bare_entryLines e hl) (ht.mem_cells hw hr hc)

theorem eq_cursorCell {r : List Cell} (hr : r ∈ t.laidOut width (linesAtEnd entries mode input))
    {c : Cell} (hc : c ∈ r) (hs : c.style = cursorStyle) : c = cursorCell := by
  rw [laidOut_linesAtEnd] at hr
  rcases List.mem_append.1 hr with hr | hr
  · exact absurd hs (style_of_mem_laidOut entries ht hw hr hc)
  · have hm := ht.mem_cells hw hr hc
    rw [cells_liveLine mode input ht] at hm
    rcases List.mem_append.1 hm with hm | hm
    · exact absurd hs (Typesetter.style_of_mem_cells (bare_beforeCursor mode input) hm)
    · exact List.mem_singleton.1 hm

theorem showsCursor_iff_visible :
    (ofInput entries mode input).ShowsCursor t width height ↔
      ((ofInput entries mode input).drawWith? t width height).isSome ∧
      ∃ r ∈ t.visible (scrollAtEnd t entries mode input width height) width height
        (linesAtEnd entries mode input), cursorCell ∈ r := by
  rw [ShowsCursor, drawWith?_ofInput, Option.isSome_iff_exists]
  constructor
  · rintro ⟨area, ha, r, hr, c, hc, hs⟩
    have hp : c.style ≠ .plain := by
      rw [hs]
      decide
    obtain ⟨row, hrow, hm⟩ := ht.skipped hw ha hr hc hp
    have hl : row ∈ t.laidOut width (linesAtEnd entries mode input) :=
      List.mem_of_mem_drop (List.mem_of_mem_take hrow)
    exact ⟨⟨area, ha⟩, row, hrow, eq_cursorCell entries mode input ht hw hl hm hs ▸ hm⟩
  · rintro ⟨⟨area, ha⟩, row, hrow, hm⟩
    obtain ⟨r, hr, hc⟩ := ht.seen hw ha hrow hm ht.width_blank
    exact ⟨area, ha, r, hr, cursorCell, hc, rfl⟩

/-- One of the rows in the area has the cursor when the cursor is laid out, and the last row is
neither before the area nor after it. -/
theorem exists_mem_visible_iff (scroll : Nat) :
    (∃ r ∈ t.visible scroll width height (linesAtEnd entries mode input), cursorCell ∈ r) ↔
      HasCursor t mode input width ∧ scroll < heightAtEnd t entries mode input width ∧
        heightAtEnd t entries mode input width - height ≤ scroll := by
  have hentries : ∀ r ∈ t.laidOut width (entries.flatMap entryLines), cursorCell ∉ r :=
    fun r hr hc => style_of_mem_laidOut entries ht hw hr hc rfl
  by_cases hc : HasCursor t mode input width
  · have hn : cursorCell ∉ t.cells (beforeCursor mode input) := fun hm =>
      Typesetter.style_of_mem_cells (bare_beforeCursor mode input) hm rfl
    obtain ⟨rows, row, hx, hrow, hrows⟩ := ht.exists_last hw (cells_liveLine mode input ht) hn hc
    have hall : t.laidOut width (linesAtEnd entries mode input) =
        t.laidOut width (entries.flatMap entryLines) ++ rows ++ [row] := by
      rw [laidOut_linesAtEnd, hx, List.append_assoc]
    have hbefore : ∀ r ∈ t.laidOut width (entries.flatMap entryLines) ++ rows, cursorCell ∉ r :=
      fun r hr => (List.mem_append.1 hr).elim (hentries r) (hrows r)
    simp only [hc, true_and, heightAtEnd, Typesetter.visible, hall]
    exact exists_mem_take_drop hbefore hrow _ _
  · simp only [hc, false_and, iff_false]
    rintro ⟨r, hr, hm⟩
    have hr := List.mem_of_mem_drop (List.mem_of_mem_take hr)
    rw [laidOut_linesAtEnd] at hr
    exact (List.mem_append.1 hr).elim (fun hr => hentries r hr hm) fun hr => hc ⟨r, hr, hm⟩

/-- The cursor behind the input is in the area exactly when the area can be drawn, the cursor is
laid out, and the rows that are scrolled away leave the last row, but no more than the area holds. -/
theorem showsCursor_iff :
    (ofInput entries mode input).ShowsCursor t width height ↔
      ((ofInput entries mode input).drawWith? t width height).isSome ∧
      HasCursor t mode input width ∧
      scrollAtEnd t entries mode input width height < heightAtEnd t entries mode input width ∧
      heightAtEnd t entries mode input width - height ≤
        scrollAtEnd t entries mode input width height := by
  rw [showsCursor_iff_visible entries mode input height ht hw,
    exists_mem_visible_iff entries mode input height ht hw]

end Lawful

/-- Three rows, of which the first is scrolled away. -/
theorem showsCursor_iff_scrolled :
    let input := "a b c d e f g h i j k l m n o p".toList
    heightAtEnd .terminal [] .eval input 16 = 3 ∧ scrollAtEnd .terminal [] .eval input 16 2 = 1 ∧
      (ofInput [] .eval input).ShowsCursor .terminal 16 2 := by
  intro input
  have hh : heightAtEnd .terminal [] .eval input 16 = 3 := by decide +kernel
  have hs : scrollAtEnd .terminal [] .eval input 16 2 = 1 := by decide +kernel
  have hd : ((ofInput [] .eval input).drawWith? .terminal 16 2).isSome := by decide +kernel
  have hc : HasCursor .terminal .eval input 16 := by
    unfold HasCursor
    decide +kernel
  refine ⟨hh, hs, (showsCursor_iff [] .eval input 2 Typesetter.lawful_terminal (by decide)).2 ?_⟩
  rw [hh, hs]
  exact ⟨hd, hc, by decide⟩

/-- Where words do not fill their rows, more rows are laid out than are counted. -/
theorem showsCursor_iff_early :
    let input := "aaaaaa bbbbbb cccccc dddddd".toList
    ¬ (ofInput [] .eval input).ShowsCursor .terminal 10 2 ∧
      scrollAtEnd .terminal [] .eval input 10 2 < heightAtEnd .terminal [] .eval input 10 - 2 := by
  decide +kernel

theorem rowCounts_eq {ls : List (List Span)}
    (h : ∀ l ∈ ls, rowCount t width l = (t.rows width l).length) :
    rowCounts t width ls = (t.laidOut width ls).length := by
  induction ls with
  | nil => rfl
  | cons l ls ih =>
    rw [List.forall_mem_cons] at h
    have hl : t.laidOut width (l :: ls) = t.rows width l ++ t.laidOut width ls := rfl
    rw [rowCounts, h.1, ih h.2, hl, List.length_append]

/-- Where as many rows are counted for every line as are laid out, the cursor behind the input is in
the area, unless it is lost or the count goes around. -/
theorem showsCursor_of_counted (ht : t.Lawful) (hw : 0 < width) (hh : 0 < height)
    (hd : ((ofInput entries mode input).drawWith? t width height).isSome)
    (hc : HasCursor t mode input width)
    (hr : ∀ l ∈ linesAtEnd entries mode input, rowCount t width l = (t.rows width l).length)
    (hn : heightAtEnd t entries mode input width < 65536) :
    (ofInput entries mode input).ShowsCursor t width height := by
  have hpos : 0 < heightAtEnd t entries mode input width := by
    obtain ⟨r, hr, -⟩ := hc
    have := List.length_pos_of_mem hr
    rw [heightAtEnd, laidOut_linesAtEnd, List.length_append]
    omega
  have hs : scrollAtEnd t entries mode input width height =
      heightAtEnd t entries mode input width - height := by
    rw [scrollAtEnd, scroll, rowCounts_eq hr, ← heightAtEnd, Nat.mod_eq_of_lt hn]
  rw [showsCursor_iff_visible entries mode input height ht hw,
    exists_mem_visible_iff entries mode input height ht hw, hs]
  exact ⟨hd, hc, by omega, Nat.le_refl _⟩

section Terminal
open Typesetter

/-- The cursor is lost exactly where the row before it is full to the edge. -/
theorem hasCursor_terminal_iff (hw : 0 < width) : HasCursor .terminal mode input width ↔
    ¬ (Wrap.empty.after width (terminal.cells (beforeCursor mode input))).AtEdge width := by
  have hs : cursorCell.isSpace := by decide +kernel
  have hone : cursorCell.width = 1 := by decide +kernel
  have hn : cursorCell ∉ terminal.cells (beforeCursor mode input) := fun hm =>
    style_of_mem_cells (bare_beforeCursor mode input) hm rfl
  have hrows : terminal.rows width (liveLine mode input []) =
      wrap width (terminal.cells (beforeCursor mode input) ++ [cursorCell]) := by
    rw [← cells_liveLine mode input lawful_terminal]
    rfl
  rw [HasCursor, hrows]
  by_cases he : (Wrap.empty.after width (terminal.cells (beforeCursor mode input))).AtEdge width
  · refine iff_of_false ?_ (not_not_intro he)
    rintro ⟨r, hr, hc⟩
    exact hn ((wrap_concat_of_atEdge hw _ hs hone he).subset (List.mem_flatten.2 ⟨r, hr, hc⟩))
  · obtain ⟨rows, row, hx, -⟩ := wrap_concat_of_not_atEdge hw _ hs hone he
    exact iff_of_true ⟨row ++ [cursorCell], by simp [hx], by simp⟩ he

theorem rowCount_of_le (hw : 0 < width) {l : List Span} (h : t.lineWidth l ≤ width) :
    rowCount t width l = 1 := by
  rw [rowCount, Nat.max_eq_right (show 1 ≤ width from hw)]
  exact Nat.div_eq_of_lt_le (by omega) (by omega)

theorem length_laidOut {ls : List (List Span)} (h : ∀ l ∈ ls, (t.rows width l).length = 1) :
    (t.laidOut width ls).length = ls.length := by
  rw [laidOut, List.length_flatMap, List.map_congr_left h]
  simp

/-- As long as there is no line that fills a row, the cursor behind the input is in the area. -/
theorem showsCursor_of_narrow (hh : 0 < height)
    (hw : ∀ l ∈ linesAtEnd entries mode input, terminal.lineWidth l ≤ width)
    (hc : ∀ l ∈ linesAtEnd entries mode input, columns (terminal.cells l) < width)
    (hn : (linesAtEnd entries mode input).length < 65536) :
    (ofInput entries mode input).ShowsCursor .terminal width height := by
  have hlive : liveLine mode input [] ∈ linesAtEnd entries mode input :=
    List.mem_append_right _ (List.mem_singleton_self _)
  have hpos : 0 < width := Nat.zero_lt_of_lt (hc _ hlive)
  have hrows : ∀ l ∈ linesAtEnd entries mode input, terminal.rows width l = [terminal.cells l] :=
    fun l hl => wrap_of_lt (hc l hl)
  have hone : ∀ l ∈ linesAtEnd entries mode input, (terminal.rows width l).length = 1 :=
    fun l hl => by rw [hrows l hl, List.length_singleton]
  have hfit (scroll : Nat) : ∀ row ∈ terminal.visible scroll width height
      (linesAtEnd entries mode input), Row.holds width 0 row := by
    intro row hrow
    obtain ⟨l, hl, hr⟩ := List.mem_flatMap.1 (List.mem_of_mem_drop (List.mem_of_mem_take hrow))
    rw [hrows l hl, List.mem_singleton] at hr
    have := hc l hl
    exact Row.holds_of_le (by rw [hr]; omega)
  refine showsCursor_of_counted entries mode input height lawful_terminal hpos hh ?_ ?_
    (fun l hl => by rw [rowCount_of_le hpos (hw l hl), hone l hl]) ?_
  · rw [drawWith?_ofInput, draw?_terminal hpos, if_pos (List.all_eq_true.2 (hfit _)),
      Option.isSome_some]
  · rw [HasCursor, hrows _ hlive, cells_liveLine mode input lawful_terminal]
    simp
  · rwa [heightAtEnd, length_laidOut hone]

end Terminal

end Pane

end Tether.Screen
