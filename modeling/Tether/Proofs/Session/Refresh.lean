import Tether.Session.Update
import Tether.Proofs.Complete.Signature
import Tether.Proofs.Complete.Word
import Tether.Proofs.Line.Cursor

/-! What holds of a session between two messages, and that `refresh` makes it hold: an input with
its cursor on a position and an index into the history are all it needs. -/
namespace Tether
open Complete Text

namespace Input

theorem snapshot_restore {p : Snapshot} (h : isPosition p.text p.cursor) (i : Input) :
    (i.restore p).snapshot = p := by
  have hc : (i.restore p).cursor = p.cursor := cursor_set h
  rw [snapshot, hc]
  rfl

theorem restore_snapshot {i j : Input} (h : isPosition i.value i.cursor)
    (hc : j.editor.cut = i.editor.cut) : j.restore i.snapshot = i := by
  have he : j.editor.place i.value i.cursor = i.editor :=
    Line.Editor.eq_of_fields (floor_of_isPosition h) hc
  change (⟨i.value, j.editor.place i.value i.cursor⟩ : Input) = i
  rw [he]

end Input

namespace Session

/-- What is shown for the input is what would be found for it now. -/
structure Fresh (s : Session) : Prop where
  word : s.word = ((wordAt s.input.value s.input.cursor).start,
    (wordAt s.input.value s.input.cursor).stop)
  call : s.call = (callAt s.document .empty s.mode s.input).1
  offers : s.offers = [] ∨ s.offers = (s.refresh false).offers

/-- The input of one's own is put aside exactly while an entry of the history is shown. -/
structure Browsing (s : Session) : Prop where
  index : s.index ≤ s.history.length
  live : s.live.isSome ↔ s.index < s.history.length

structure Sound (s : Session) : Prop where
  signatures : s.signatures.Exact
  cursor : isPosition s.input.value s.input.cursor
  offered : ∀ m ∈ s.offers, m.candidate ∈ s.candidates
  browsing : s.Browsing
  selected : ∀ t ∈ s.tab, t.selected < s.offers.length
  fresh : s.tab = none → s.Fresh

/-- A sound session in which no offers are gone through. -/
structure Settled (s : Session) : Prop where
  sound : s.Sound
  tab : s.tab = none

/-- What is left of a settled session while the input or the history is being changed. -/
structure Ready (s : Session) : Prop where
  signatures : s.signatures.Exact
  cursor : isPosition s.input.value s.input.cursor
  tab : s.tab = none

theorem Settled.ready {s : Session} (h : s.Settled) : s.Ready :=
  ⟨h.sound.signatures, h.sound.cursor, h.tab⟩

/-- The session without what no invariant is about. -/
def bare (s : Session) : Session :=
  { s with
    parkedEval := .empty, parkedCommand := .empty, browse := none, width := 0, transcript := []
    name := "" }

theorem sound_bare {s : Session} : s.bare.Sound ↔ s.Sound :=
  ⟨fun h => ⟨h.signatures, h.cursor, h.offered, ⟨h.browsing.index, h.browsing.live⟩, h.selected,
      fun ht => ⟨(h.fresh ht).word, (h.fresh ht).call, (h.fresh ht).offers⟩⟩,
    fun h => ⟨h.signatures, h.cursor, h.offered, ⟨h.browsing.index, h.browsing.live⟩, h.selected,
      fun ht => ⟨(h.fresh ht).word, (h.fresh ht).call, (h.fresh ht).offers⟩⟩⟩

theorem Sound.of_bare {s s' : Session} (h : s.Sound) (he : s'.bare = s.bare) : s'.Sound := by
  rw [← sound_bare, he, sound_bare]
  exact h

theorem Settled.of_bare {s s' : Session} (h : s.Settled) (he : s'.bare = s.bare) : s'.Settled :=
  ⟨h.sound.of_bare he, (congrArg Session.tab he).trans h.tab⟩

theorem callAt_exact {c : Signature.Cache} (h : c.Exact) (d : Document) (mode : Mode) (i : Input) :
    (callAt d c mode i).1 = (callAt d .empty mode i).1 ∧ (callAt d c mode i).2.Exact := by
  unfold callAt
  cases mode with
  | command => exact ⟨rfl, h⟩
  | eval =>
    cases callAt? i.value i.cursor with
    | none => exact ⟨rfl, h⟩
    | some site =>
      have he := Signature.Cache.find?_eq_empty h d (String.ofList site.name)
      exact ⟨congrArg (Option.map fun s : Signature => (⟨s, site.argument⟩ : ActiveCall)) he,
        (Signature.Cache.find?_exact h d (String.ofList site.name)).2⟩

theorem mem_of_mem_search {matcher : Matcher} {word : List Char} {cs : List Candidate} {m : Match}
    (h : m ∈ Match.search matcher word cs) : m.candidate ∈ cs := by
  rw [Match.search] at h
  split at h
  · cases h
  · rw [List.mem_mergeSort] at h
    obtain ⟨c, hc, hm⟩ := List.mem_filterMap.1 h
    obtain ⟨x, -, rfl⟩ := Option.map_eq_some_iff.1 hm
    exact hc

theorem mem_of_mem_rank {matcher : Matcher} {word parent : List Char} {cs : List Candidate}
    {m : Match} (h : m ∈ Match.rank matcher word parent cs) : m.candidate ∈ cs := by
  unfold Match.rank Match.byPriority at h
  rw [List.mem_mergeSort] at h
  split at h
  · obtain ⟨c, hc, rfl⟩ := List.mem_map.1 h
    exact hc
  · exact mem_of_mem_search h

theorem mem_offersFor {matcher : Matcher} {d : Document} {mode : Mode} {cs : List Char} {w : Word}
    {m : Match} (h : m ∈ (offersFor matcher d mode cs w).2) :
    m.candidate ∈ (offersFor matcher d mode cs w).1 := by
  cases mode with
  | command => exact mem_of_mem_search h
  | eval => exact mem_of_mem_rank h

theorem equalIgnoringCase_of_confirmed? {w : Word} {ms : List Match} {name : List Char}
    (h : confirmed? w ms = some name) : name.map Char.toLower = w.text.map Char.toLower := by
  unfold confirmed? at h
  split at h
  · split at h
    next m he =>
      cases h
      simpa [equalIgnoringCase] using he
    · cases h
  · cases h

def confirmedInput (i : Input) (w : Word) (name : List Char) : Input :=
  if name = w.text then i else (i.replace? w.start w.stop name).getD i

theorem confirmedInput_of_ne {i : Input} {w : Word} {name a d : List Char} (hn : name ≠ w.text)
    (hv : i.value = a ++ (w.text ++ d)) (ha : bytes a = w.start)
    (hs : w.stop = w.start + bytes w.text) :
    confirmedInput i w name = i.set (a ++ name ++ d) (bytes (a ++ name)) := by
  rw [confirmedInput, if_neg hn, Input.replace?, hs, ← ha, hv, splice?_append, bytes_append]
  rfl

/-- A name that is the word but for ASCII case becomes the word. -/
theorem wordAt_confirmedInput {i : Input} {name : List Char} (hi : isPosition i.value i.cursor)
    (hn : name.map Char.toLower = (wordAt i.value i.cursor).text.map Char.toLower) :
    let j := confirmedInput i (wordAt i.value i.cursor) name
    isPosition j.value j.cursor ∧ (wordAt j.value j.cursor).start = (wordAt i.value i.cursor).start ∧
      (wordAt j.value j.cursor).stop = (wordAt i.value i.cursor).start + bytes name := by
  obtain ⟨a, d, hv, ha, hs, hb, hw⟩ := exists_wordAt i.value i.cursor
  dsimp only
  by_cases he : name = (wordAt i.value i.cursor).text
  · rw [confirmedInput, if_pos he]
    exact ⟨hi, rfl, by rw [hs, he]⟩
  · have hu := unbroken_of_map_toLower hn hw
    have hp : isPosition (a ++ name ++ d) (bytes (a ++ name)) := isPosition_append (a ++ name) d
    have hc : (i.set (a ++ name ++ d) (bytes (a ++ name))).cursor = bytes (a ++ name) :=
      Input.cursor_set hp
    rw [confirmedInput_of_ne he hv ha hs, hc]
    refine ⟨hp, ?_⟩
    change (wordAt (a ++ name ++ d) _).start = _ ∧ (wordAt (a ++ name ++ d) _).stop = _
    rw [wordAt_append hb hu]
    exact ⟨ha, by rw [ha]⟩

def inputOffers (s : Session) : List Candidate × List Match :=
  offersFor s.matcher s.document s.mode s.input.value (wordAt s.input.value s.input.cursor)

theorem settled_refreshCall {s : Session} (h : s.Ready) (hb : s.Browsing)
    (hm : ∀ m ∈ s.offers, m.candidate ∈ s.candidates)
    (hw : s.word = ((wordAt s.input.value s.input.cursor).start,
      (wordAt s.input.value s.input.cursor).stop))
    (ho : s.offers = [] ∨ s.offers = s.inputOffers.2) : s.refreshCall.Settled := by
  obtain ⟨hc, he⟩ := callAt_exact h.signatures s.document s.mode s.input
  have hs : s.refreshCall.tab = none := h.tab
  refine ⟨⟨he, h.cursor, hm, ⟨hb.index, hb.live⟩, fun t ht => ?_, fun _ => ⟨hw, hc, ho⟩⟩, hs⟩
  rw [hs] at ht
  cases ht

theorem settled_refresh {s : Session} (h : s.Ready) (hb : s.Browsing) (confirm : Bool) :
    (s.refresh confirm).Settled := by
  rw [refresh]
  dsimp only
  have hm : ∀ m ∈ s.inputOffers.2, m.candidate ∈ s.inputOffers.1 := fun m => mem_offersFor
  split
  next =>
    exact settled_refreshCall ⟨h.signatures, h.cursor, h.tab⟩ ⟨hb.index, hb.live⟩ hm rfl (.inr rfl)
  next name hn =>
    have hc : confirmed? (wordAt s.input.value s.input.cursor) s.inputOffers.2 = some name := by
      cases confirm with
      | false => cases hn
      | true => exact hn
    obtain ⟨hp, hstart, hstop⟩ := wordAt_confirmedInput h.cursor (equalIgnoringCase_of_confirmed? hc)
    refine settled_refreshCall ⟨h.signatures, hp, h.tab⟩ ⟨hb.index, hb.live⟩ nofun ?_ (.inl rfl)
    exact Prod.ext hstart.symm hstop.symm

/-- What `refresh` leaves alone, apart from the text of the input. -/
structure Frame (s s' : Session) : Prop where
  document : s'.document = s.document
  history : s'.history = s.history
  mode : s'.mode = s.mode
  tab : s'.tab = s.tab
  index : s'.index = s.index
  live : s'.live = s.live

theorem frame_refresh (s : Session) (confirm : Bool) : Frame s (s.refresh confirm) := by
  rw [refresh]
  dsimp only
  split
  · exact ⟨rfl, rfl, rfl, rfl, rfl, rfl⟩
  · exact ⟨rfl, rfl, rfl, rfl, rfl, rfl⟩

theorem browsing_stopBrowsing (s : Session) : s.stopBrowsing.Browsing :=
  ⟨Nat.le_refl _, by simp [stopBrowsing]⟩

end Session

end Tether
