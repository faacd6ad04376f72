import Mathlib
import Tether.Proofs.Expr.Dotted
import Tether.Proofs.Expr.Placement
import Tether.Proofs.Text.Position
import Tether.Proofs.Text.Split

/-! White space between tokens. A text that can be cut into tokens is made up of them, each at its
place, with white space between; any other white space there gives the same tokens and the same
tree, as long as neighbours are kept apart (`Token.spacing_of_scan`). -/
namespace Tether
open Unicode (isWhite)

namespace Token

def Apart (rest : List Char) : Prop := ∀ d ∈ rest.head?, isWhite d

theorem Apart.not_isNameChar {rest : List Char} (h : Apart rest) :
    ∀ d ∈ rest.head?, isNameChar d = false := by
  intro d hd
  by_contra hn
  rw [Bool.not_eq_false] at hn
  exact absurd (h d hd) (by simp [not_white_of_isNameChar hn])

theorem Apart.not_isDigit {rest : List Char} (h : Apart rest) :
    ∀ d ∈ rest.head?, d.isDigit = false := by
  intro d hd
  by_contra hn
  rw [Bool.not_eq_false] at hn
  exact absurd (h d hd) (by simp [Unicode.not_isWhite_of_isDigit hn])

theorem stringBody_plain {start here : Nat} {c : Char} {cs value text rest : List Char}
    (hq : c ≠ '"') (hb : c ≠ '\\')
    (h : stringBody start (here + c.utf8Size) cs = .ok (value, text, rest)) :
    stringBody start here (c :: cs) = .ok (c :: value, c :: text, rest) := by
  rw [stringBody, h]
  · rfl
  · exact hq
  · exact fun hc _ => hb hc
  · exact fun _ _ hc _ => hb hc

theorem stringBody_escaped {start here : Nat} {e c : Char} {cs value text rest : List Char}
    (he : unescape? e = some c)
    (h : stringBody start (here + 1 + e.utf8Size) cs = .ok (value, text, rest)) :
    stringBody start here ('\\' :: e :: cs) = .ok (c :: value, '\\' :: e :: text, rest) := by
  simp [stringBody, he, h]

theorem apart_of_blank {gap : List Char} (h : Text.Blank gap) : Apart gap :=
  fun d hd => h d (List.mem_of_mem_head? hd)

theorem apart_append {gap : List Char} (h : Text.Blank gap) (hn : gap ≠ []) (cs : List Char) :
    Apart (gap ++ cs) := by
  intro d hd
  rw [List.head?_append_of_ne_nil gap hn] at hd
  exact apart_of_blank h d hd

theorem stringBody_rest {start here : Nat} {cs value text rest : List Char}
    (h : stringBody start here cs = .ok (value, text, rest)) (start' here' : Nat)
    (rest' : List Char) :
    stringBody start' here' (text ++ rest') = .ok (value, text, rest') := by
  fun_induction stringBody start here cs generalizing value text rest here' with
  | case1 => cases h
  | case2 => cases h; rfl
  | case3 => cases h
  | case4 => cases h
  | case5 here e cs c hc ih =>
    obtain ⟨⟨v, t, r⟩, hb, h⟩ := bind_eq_ok.1 h
    cases h
    exact stringBody_escaped hc (ih hb _)
  | case6 here c cs hq hn hs ih =>
    obtain ⟨⟨v, t, r⟩, hb, h⟩ := bind_eq_ok.1 h
    cases h
    have hc : c ≠ '\\' := by
      cases cs with
      | nil => exact fun hc => hn hc rfl
      | cons e es => exact fun hc => hs e es hc rfl
    exact stringBody_plain hq hc (ih hb _)

theorem symbol?_rest {c : Char} {cs text rest : List Char} {s : Sym}
    (h : symbol? c cs = some (s, text, rest)) :
    ∃ us, text = c :: us ∧ ∀ rest', Apart rest' →
      symbol? c (us ++ rest') = some (s, text, rest') := by
  have single (hs : single? c = some s) (rest' : List Char) (hr : Apart rest') :
      symbol? c rest' = some (s, [c], rest') := by
    cases rest' with
    | nil => simp [symbol?, hs]
    | cons d ds =>
      have hw := hr d rfl
      have hp : pair? c d = none := by
        unfold pair?
        split <;> first | rfl | exact absurd hw (by decide)
      simp [symbol?, hs, hp]
  cases cs with
  | nil =>
    obtain ⟨s, hs, he⟩ := Option.map_eq_some_iff.1 h
    cases he
    exact ⟨[], rfl, single hs⟩
  | cons d cs =>
    unfold symbol? at h
    dsimp only at h
    split at h
    next s' hp =>
      cases h
      exact ⟨[d], rfl, fun rest' _ => by simp [symbol?, hp]⟩
    · obtain ⟨s, hs, he⟩ := Option.map_eq_some_iff.1 h
      cases he
      exact ⟨[], rfl, single hs⟩

section Numbers
variable {start : Nat} {c : Char} {whole fraction cs text rest : List Char} {t : Tok}

theorem number_cases (h : number start whole cs = .ok (t, text, rest)) :
    (Number.inRange (digitsValue whole) ∧ t = .int (Int64.ofNat (digitsValue whole)) ∧
      text = whole) ∨
    ∃ d ds, (∀ x ∈ d :: ds, x.isDigit) ∧ text = whole ++ '.' :: d :: ds ∧
      t = .float (Float.ofScientific (digitsValue (whole ++ d :: ds)) true (d :: ds).length) := by
  have integer {cs : List Char} (h : number.integer start whole cs = .ok (t, text, rest)) :
      Number.inRange (digitsValue whole) ∧ t = .int (Int64.ofNat (digitsValue whole)) ∧
        text = whole := by
    unfold number.integer at h
    dsimp only at h
    split at h
    next hn =>
      cases h
      exact ⟨hn, rfl, rfl⟩
    · cases h
  unfold number at h
  split at h
  next d ds =>
    split at h
    next hd =>
      cases h
      refine .inr ⟨d, ds.takeWhile Char.isDigit, ?_, rfl, rfl⟩
      exact List.forall_mem_cons.2 ⟨hd, fun x hx => List.mem_takeWhile_imp hx⟩
    · exact .inl (integer h)
  · exact .inl (integer h)

theorem first_int (hw : ∀ x ∈ c :: whole, x.isDigit)
    (hn : Number.inRange (digitsValue (c :: whole)))
    (hr : ∀ d ∈ rest.head?, d.isDigit = false) (hp : rest.head? ≠ some '.') (start : Nat) :
    first start c (whole ++ rest) =
      .ok (.int (Int64.ofNat (digitsValue (c :: whole))), c :: whole, rest) := by
  obtain ⟨hc, hw⟩ := List.forall_mem_cons.1 hw
  rw [first, if_pos hc, Text.takeWhile_append_of_stop hw hr, Text.dropWhile_append_of_stop hw hr]
  unfold number
  split
  · exact absurd rfl hp
  · simp [number.integer, hn]

theorem first_float {d : Char} (hw : ∀ x ∈ c :: whole, x.isDigit)
    (hf : ∀ x ∈ d :: fraction, x.isDigit) (hr : ∀ x ∈ rest.head?, x.isDigit = false)
    (start : Nat) :
    first start c (whole ++ '.' :: d :: (fraction ++ rest)) =
      .ok (.float (Float.ofScientific (digitsValue (c :: whole ++ d :: fraction)) true
        (d :: fraction).length), c :: whole ++ '.' :: d :: fraction, rest) := by
  obtain ⟨hc, hw⟩ := List.forall_mem_cons.1 hw
  obtain ⟨hd, hf⟩ := List.forall_mem_cons.1 hf
  have hp : ∀ x ∈ ('.' :: d :: (fraction ++ rest)).head?, x.isDigit = false := by
    rintro x ⟨⟩
    rfl
  rw [first, if_pos hc, Text.takeWhile_append_of_stop hw hp, Text.dropWhile_append_of_stop hw hp]
  change (if d.isDigit then _ else _) = _
  rw [if_pos hd, Text.takeWhile_append_of_stop hf hr, Text.dropWhile_append_of_stop hf hr]

end Numbers

/-- The first token of a text is cut off the same way where nothing or white space follows it. -/
theorem first_rest {start : Nat} {c : Char} {cs text rest : List Char} {t : Tok}
    (h : first start c cs = .ok (t, text, rest)) :
    ∃ us, text = c :: us ∧ ∀ start' rest', Apart rest' →
      first start' c (us ++ rest') = .ok (t, text, rest') := by
  have h' := h
  unfold first at h'
  split at h'
  next hc =>
    have hw : ∀ x ∈ c :: cs.takeWhile Char.isDigit, x.isDigit :=
      List.forall_mem_cons.2 ⟨hc, fun x hx => List.mem_takeWhile_imp hx⟩
    rcases number_cases h' with ⟨hn, rfl, rfl⟩ | ⟨d, ds, hf, rfl, rfl⟩
    · refine ⟨_, rfl, fun start' rest' hr => first_int hw hn hr.not_isDigit ?_ start'⟩
      intro hp
      exact absurd (hr _ hp) (by decide)
    · refine ⟨_, rfl, fun start' rest' hr => ?_⟩
      have hx := first_float hw hf hr.not_isDigit start'
      simpa using hx
  split at h'
  next hd hc =>
    cases h'
    refine ⟨_, rfl, fun start' rest' hr => first_name ?_ rest' hr.not_isNameChar start'⟩
    simp [isName, hc]
  split at h'
  next hd hn hq =>
    subst hq
    obtain ⟨⟨v, u, r⟩, hb, h'⟩ := bind_eq_ok.1 h'
    cases h'
    refine ⟨u, rfl, fun start' rest' hr => ?_⟩
    rw [first, if_neg hd, if_neg hn, if_pos rfl, stringBody_rest hb start' (start' + 1) rest']
    rfl
  next hd hn hq =>
    split at h'
    next s text rest hs =>
      cases h'
      obtain ⟨us, rfl, hs⟩ := symbol?_rest hs
      refine ⟨us, rfl, fun start' rest' hr => ?_⟩
      rw [first, if_neg hd, if_neg hn, if_neg hq, hs rest' hr]
    · cases h'

def spaced (ps : List (List Char × Token)) (last : List Char) : List Char :=
  ps.flatMap (fun p => p.1 ++ p.2.lexeme) ++ last

@[simp] theorem spaced_nil (last : List Char) : spaced [] last = last := rfl

@[simp] theorem spaced_cons (p : List Char × Token) (ps : List (List Char × Token))
    (last : List Char) : spaced (p :: ps) last = p.1 ++ (p.2.lexeme ++ spaced ps last) := by
  simp [spaced]

theorem spaced_append (before after : List (List Char × Token)) (p : List Char × Token)
    (last : List Char) : spaced (before ++ p :: after) last =
      spaced before p.1 ++ (p.2.lexeme ++ spaced after last) := by
  simp [spaced]

/-- A token that is read from its text wherever that stands apart. -/
def Stands (t : Token) : Prop :=
  ∃ c us, t.lexeme = c :: us ∧ isWhite c = false ∧
    ∀ start rest, Apart rest → first start c (us ++ rest) = .ok (t.tok, t.lexeme, rest)

/-- White space stands before each token and behind the last one. -/
structure Blanks (ps : List (List Char × Token)) (last : List Char) : Prop where
  before : ∀ p ∈ ps, Text.Blank p.1
  last : Text.Blank last

theorem scanFrom_nil (start : Nat) : scanFrom start [] = .ok [] := by
  rw [scanFrom]

theorem scanFrom_blank {gap : List Char} (h : Text.Blank gap) (start : Nat) (cs : List Char) :
    scanFrom start (gap ++ cs) = scanFrom (start + Text.bytes gap) cs := by
  induction gap generalizing start with
  | nil => rfl
  | cons c gap ih =>
    obtain ⟨hc, hg⟩ := List.forall_mem_cons.1 h
    rw [List.cons_append, scanFrom, if_pos hc, ih hg, Text.bytes_cons, Nat.add_assoc]

/-- Tokens that stand apart are read again, whatever white space is between them. -/
theorem scanFrom_spaced {ps : List (List Char × Token)} {last : List Char}
    (hs : ∀ p ∈ ps, p.2.Stands) (hb : Blanks ps last) (hn : ∀ p ∈ ps.tail, p.1 ≠ [])
    (start : Nat) :
    ∃ us, scanFrom start (spaced ps last) = .ok us ∧ SameTokens (ps.map Prod.snd) us := by
  induction ps generalizing start with
  | nil =>
    refine ⟨[], ?_, .nil⟩
    rw [spaced_nil, ← List.append_nil last, scanFrom_blank hb.last, scanFrom_nil]
  | cons p ps ih =>
    obtain ⟨hp, hs⟩ := List.forall_mem_cons.1 hs
    obtain ⟨hg, hgs⟩ := List.forall_mem_cons.1 hb.before
    obtain ⟨c, us, hl, hc, hf⟩ := hp
    have hr : Apart (spaced ps last) := by
      cases ps with
      | nil => exact apart_of_blank hb.last
      | cons q qs =>
        rw [spaced_cons]
        exact apart_append (hgs q List.mem_cons_self) (hn q List.mem_cons_self) _
    obtain ⟨vs, hv, hsame⟩ := ih hs ⟨hgs, hb.last⟩ (fun q hq => hn q (List.mem_of_mem_tail hq))
      (start + Text.bytes p.1 + Text.bytes p.2.lexeme)
    refine ⟨⟨p.2.tok, start + Text.bytes p.1, p.2.lexeme⟩ :: vs, ?_, .cons rfl hsame⟩
    rw [spaced_cons, scanFrom_blank hg, hl, List.cons_append, scanFrom_cons hc (hf _ _ hr), hv,
      hl]
    rfl

/-- Each token begins where its text does, the first one after `n` bytes and what stands before
it. -/
def Placed : Nat → List (List Char × Token) → Prop
  | _, [] => True
  | n, p :: ps => p.2.start = n + Text.bytes p.1 ∧ Placed p.2.stop ps

theorem Placed.start_eq {n : Nat} {before after : List (List Char × Token)} {p : List Char × Token}
    (h : Placed n (before ++ p :: after)) : p.2.start = n + Text.bytes (spaced before p.1) := by
  induction before generalizing n with
  | nil => exact h.1
  | cons q before ih =>
    obtain ⟨hq, h⟩ := h
    rw [ih h, stop, hq, spaced_cons, Text.bytes_append, Text.bytes_append]
    omega

theorem Placed.le_start {n : Nat} {ps : List (List Char × Token)} (h : Placed n ps) :
    ∀ p ∈ ps, n ≤ p.2.start := by
  intro p hp
  obtain ⟨before, after, rfl⟩ := List.append_of_mem hp
  rw [h.start_eq]
  exact Nat.le_add_right _ _

theorem Placed.pairwise {n : Nat} {ps : List (List Char × Token)} (h : Placed n ps)
    (hs : ∀ p ∈ ps, p.2.Stands) : (ps.map Prod.snd).Pairwise fun t u => t.start < u.start := by
  induction ps generalizing n with
  | nil => exact .nil
  | cons p ps ih =>
    obtain ⟨hp, hs⟩ := List.forall_mem_cons.1 hs
    refine List.pairwise_cons.2 ⟨fun t ht => ?_, ih h.2 hs⟩
    obtain ⟨q, hq, rfl⟩ := List.mem_map.1 ht
    obtain ⟨c, us, hl, -⟩ := hp
    have hle := h.2.le_start q hq
    have hc := c.utf8Size_pos
    rw [stop, hl, Text.bytes_cons] at hle
    omega

theorem exists_spaced {start : Nat} {cs : List Char} {ts : List Token}
    (h : scanFrom start cs = .ok ts) :
    ∃ ps last, ps.map Prod.snd = ts ∧ cs = spaced ps last ∧ Blanks ps last ∧ Placed start ps ∧
      ∀ p ∈ ps, p.2.Stands := by
  fun_induction scanFrom start cs generalizing ts with
  | case1 start =>
    cases h
    exact ⟨[], [], rfl, rfl, ⟨by simp, by simp [Text.Blank]⟩, trivial, by simp⟩
  | case2 start c cs hc ih =>
    obtain ⟨ps, last, hm, rfl, hb, hp, hs⟩ := ih h
    cases ps with
    | nil =>
      exact ⟨[], c :: last, hm, rfl, ⟨by simp, List.forall_mem_cons.2 ⟨hc, hb.last⟩⟩, trivial, hs⟩
    | cons p ps =>
      refine ⟨(c :: p.1, p.2) :: ps, last, hm, by simp, ⟨?_, hb.last⟩, ⟨?_, hp.2⟩, ?_⟩
      · obtain ⟨hg, hgs⟩ := List.forall_mem_cons.1 hb.before
        exact List.forall_mem_cons.2 ⟨List.forall_mem_cons.2 ⟨hc, hg⟩, hgs⟩
      · rw [hp.1, Text.bytes_cons, Nat.add_assoc]
      · obtain ⟨hp, hs⟩ := List.forall_mem_cons.1 hs
        exact List.forall_mem_cons.2 ⟨hp, hs⟩
  | case3 => cases h
  | case4 start c cs hc tok text rest hf ih =>
    obtain ⟨us, hu, h⟩ := bind_eq_ok.1 h
    cases h
    obtain ⟨ps, last, hm, rfl, hb, hp, hs⟩ := ih hu
    refine ⟨([], ⟨tok, start, text⟩) :: ps, last, by simp [hm], ?_, ⟨?_, hb.last⟩, ⟨rfl, hp⟩, ?_⟩
    · rw [spaced_cons, List.nil_append, first_append hf]
    · exact List.forall_mem_cons.2 ⟨by simp [Text.Blank], hb.before⟩
    · obtain ⟨us, hl, hr⟩ := first_rest hf
      exact List.forall_mem_cons.2 ⟨⟨c, us, hl, by simpa using hc, hr⟩, hs⟩

def escape : Char → List Char
  | '\\' => ['\\', '\\']
  | '"' => ['\\', '"']
  | '\n' => ['\\', 'n']
  | '\t' => ['\\', 't']
  | c => [c]

theorem stringBody_escape (cs : List Char) (start here : Nat) (rest : List Char) :
    stringBody start here (cs.flatMap escape ++ '"' :: rest) =
      .ok (cs, cs.flatMap escape ++ ['"'], rest) := by
  induction cs generalizing here with
  | nil => rfl
  | cons c cs ih =>
    rw [List.flatMap_cons, List.append_assoc, List.append_assoc]
    unfold escape
    split
    · exact stringBody_escaped rfl (ih _)
    · exact stringBody_escaped rfl (ih _)
    · exact stringBody_escaped rfl (ih _)
    · exact stringBody_escaped rfl (ih _)
    next hb hq _ _ => exact stringBody_plain hq hb (ih _)

theorem first_str (cs : List Char) (start : Nat) (rest : List Char) :
    first start '"' (cs.flatMap escape ++ '"' :: rest) =
      .ok (.str (String.ofList cs), '"' :: (cs.flatMap escape ++ ['"']), rest) := by
  rw [first, if_neg (by decide), if_neg (by decide), if_pos rfl, stringBody_escape]
  rfl

theorem scan_quoted (cs : List Char) :
    scan ('"' :: (cs.flatMap escape ++ ['"'])) =
      .ok [⟨.str (String.ofList cs), 0, '"' :: (cs.flatMap escape ++ ['"'])⟩] := by
  have hf := first_str cs 0 []
  rw [scan, scanFrom_cons (by decide) hf, scanFrom_nil]
  rfl

/-- The tokens of a text begin at positions one after the other, there is only white space between
them, and any other white space gives the same tokens and the same tree, if there is some between
neighbours. A quoted and escaped text is one token. -/
theorem spacing_of_scan :
    (∀ cs ts, scan cs = .ok ts →
      ts.Pairwise (fun t u => t.start < u.start) ∧ (∀ t ∈ ts, Text.isPosition cs t.start) ∧
      (∃ ps last, ps.map Prod.snd = ts ∧ cs = spaced ps last ∧ Blanks ps last ∧
        ∀ before p after, ps = before ++ p :: after →
          p.2.start = Text.bytes (spaced before p.1)) ∧
      ∀ ps last, ps.map Prod.snd = ts → Blanks ps last → (∀ p ∈ ps.tail, p.1 ≠ []) →
        (∃ us, scan (spaced ps last) = .ok us ∧ us.map Token.tok = ts.map Token.tok) ∧
        ∀ e, Expr.parse (spaced ps last) = .ok e ↔ Expr.parse cs = .ok e) ∧
    ∀ s : String, ∃ t,
      scan ('"' :: (s.toList.flatMap escape ++ ['"'])) = .ok [t] ∧ t.tok = .str s := by
  refine ⟨fun cs ts h => ?_, fun s => ⟨_, scan_quoted s.toList, by rw [String.ofList_toList]⟩⟩
  obtain ⟨ps, last, hm, rfl, hb, hp, hs⟩ := exists_spaced h
  subst hm
  refine ⟨hp.pairwise hs, fun t ht => ?_, ⟨ps, last, rfl, rfl, hb, ?_⟩, fun qs end' hm hb' hn => ?_⟩
  · obtain ⟨p, hmem, rfl⟩ := List.mem_map.1 ht
    obtain ⟨before, after, rfl⟩ := List.append_of_mem hmem
    rw [hp.start_eq, Nat.zero_add, spaced_append]
    exact Text.isPosition_append _ _
  · rintro before p after rfl
    rw [hp.start_eq, Nat.zero_add]
  · have hs' : ∀ q ∈ qs, q.2.Stands := by
      intro q hq
      obtain ⟨p, hmem, he⟩ := List.mem_map.1 (hm ▸ List.mem_map_of_mem hq)
      exact he ▸ hs p hmem
    obtain ⟨us, hu, hsame⟩ := scanFrom_spaced hs' hb' hn 0
    rw [hm] at hsame
    refine ⟨⟨us, hu, ((sameTokens_iff).1 hsame).symm⟩, fun e => ?_⟩
    have ha := Expr.alike_ofTokens hsame (Text.bytes (spaced ps last)) (Text.bytes (spaced qs end'))
    rw [Expr.parse, Expr.parse, scan, hu, show scan _ = _ from h, ok_bind, ok_bind]
    exact (ha.eq_ok_iff e).symm

/-- A comparison with a name that has a hyphen. -/
theorem spacing_of_scan_hyphen :
    ∃ us, scan "\tx-1 <=\n y".toList = .ok us ∧
      us.map Token.tok = [.ident "x-1", .sym .le, .ident "y"] := by
  have h : scan "x-1<=y".toList =
      .ok [⟨.ident "x-1", 0, ['x', '-', '1']⟩, ⟨.sym .le, 3, ['<', '=']⟩,
        ⟨.ident "y", 5, ['y']⟩] := by cbv
  have htab : isWhite '\t' = true := by rfl
  have hspace : isWhite ' ' = true := by rfl
  have hbreak : isWhite '\n' = true := by rfl
  obtain ⟨us, hu, hs⟩ := ((spacing_of_scan.1 _ _ h).2.2.2
    [(['\t'], ⟨.ident "x-1", 0, ['x', '-', '1']⟩), ([' '], ⟨.sym .le, 3, ['<', '=']⟩),
      (['\n', ' '], ⟨.ident "y", 5, ['y']⟩)] [] rfl
    ⟨by simp [Text.Blank, htab, hspace, hbreak], by simp [Text.Blank]⟩ (by simp)).1
  exact ⟨us, hu, hs⟩

end Token

end Tether
