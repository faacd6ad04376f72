import Tether.Session.State

/-! Going through offers and through the history. -/
namespace Tether.Session

def showSelected? (s : Session) : Option Session :=
  match s.tab with
  | none => some s
  | some t =>
    match s.offers[t.selected]? with
    | none => some s
    | some m =>
      let name := m.name.toList
      (Text.splice? t.before.text t.start t.stop name).map fun text =>
        { s with input := s.input.set text (t.start + Text.bytes name) }.refreshCall

/-- Selects the first offer, or the last one going backward. -/
def startTab? (s : Session) (forward : Bool) : Option Session :=
  if s.offers.isEmpty then some s
  else
    let t : TabCycle :=
      ⟨s.input.snapshot, s.word.1, s.word.2, if forward then 0 else s.offers.length - 1⟩
    { s with tab := some t }.showSelected?

def cycle? (s : Session) (forward : Bool) : Option Session :=
  match s.tab with
  | none => some s
  | some t =>
    if s.offers.isEmpty then some s
    else
      let n := s.offers.length
      let selected := if forward then (t.selected + 1) % n else (t.selected + n - 1) % n
      { s with tab := some { t with selected := selected } }.showSelected?

def cancelTab (s : Session) : Session :=
  match s.tab with
  | none => s
  | some t => { s with tab := none, input := s.input.restore t.before }.refresh false

def commitTab (s : Session) : Session :=
  match s.tab with
  | none => s
  | some _ => { s with tab := none }.refresh false

def showEntry (s : Session) (i : Nat) (follow : Bool) : Session :=
  match s.history.get i with
  | .error _ => s
  | .ok e => { s with mode := if follow then e.mode else s.mode, index := i }.showLine e.line

def previous (s : Session) (filter : Option Mode) : Session :=
  match s.history.prev? (min s.index s.history.length) filter with
  | none => s
  | some i =>
    let live := s.live.getD (s.mode, s.input.snapshot)
    { s with live := some live }.showEntry i filter.isNone

/-- Shows the entry after, of a mode if one is given; after the last one, the input from before. -/
def following (s : Session) (filter : Option Mode) : Session :=
  if s.history.length ≤ s.index then s
  else match s.history.next? s.index filter with
    | some i => s.showEntry i filter.isNone
    | none =>
      let s := match s.live with
        | none => s
        | some (mode, p) => { s with mode := mode, input := s.input.restore p, live := none }
      { s with index := s.history.length }.refresh false

def showCommand (s : Session) (i : Nat) : Session :=
  match s.history.get i with
  | .error _ => s
  | .ok e => { s with mode := .command }.showLine e.line

def previousCommand (s : Session) : Session :=
  let start := match s.browse with
    | some b => b.index
    | none => s.history.length
  match s.history.prev? start (some .command) with
  | none => s
  | some i =>
    match s.browse with
    | some b => { s with browse := some { b with index := i } }.showCommand i
    | none =>
      ({ s with browse := some ⟨s.mode, s.input.snapshot, i⟩ }.stopBrowsing).showCommand i

/-- Shows the command after; after the last one, the input from before. -/
def followingCommand (s : Session) : Session :=
  match s.browse with
  | none => s
  | some b =>
    match s.history.next? b.index (some .command) with
    | some i => { s with browse := some { b with index := i } }.showCommand i
    | none =>
      { s with browse := none, mode := b.mode, input := s.input.restore b.before }.refresh false

/-- Keeps the command shown; the input from before is put aside for its mode. -/
def commitBrowse (s : Session) : Session :=
  match s.browse with
  | none => s
  | some b =>
    let s := { s with browse := none }
    if b.mode = s.mode then s else s.park b.mode b.before

end Tether.Session
