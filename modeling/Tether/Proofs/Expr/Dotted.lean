import Tether.Proofs.Expr.Completeness
import Tether.Proofs.Text.Segments
import Tether.Proofs.Text.Split
import Tether.Proofs.Unicode.Names

/-! Dotted names as expressions: the text of a path is read as that path (`Expr.parse_dotted`). -/
namespace Tether

namespace Token

theorem scanFrom_cons {start : Nat} {c : Char} {cs text rest : List Char} {t : Tok}
    (hw : Unicode.isWhite c = false) (hf : first start c cs = .ok (t, text, rest)) :
    scanFrom start (c :: cs) = do
      let ts ← scanFrom (start + Text.bytes text) rest
      return ⟨t, start, text⟩ :: ts := by
  rw [scanFrom, if_neg (by simp [hw])]
  split
  next e he =>
    rw [hf] at he
    cases he
  next he =>
    rw [hf] at he
    cases he
    rfl

def Scans (cs : List Char) (toks : List Tok) : Prop :=
  ∀ start, ∃ ts, scanFrom start cs = .ok ts ∧ ts.map Token.tok = toks

theorem Scans.nil : Scans [] [] := by
  intro start
  exact ⟨[], by rw [scanFrom], rfl⟩

theorem Scans.white {c : Char} {cs : List Char} {toks : List Tok} (hw : Unicode.isWhite c)
    (h : Scans cs toks) : Scans (c :: cs) toks := by
  intro start
  rw [scanFrom, if_pos hw]
  exact h (start + c.utf8Size)

theorem Scans.cons {c : Char} {cs text rest : List Char} {t : Tok} {toks : List Tok}
    (hw : Unicode.isWhite c = false) (hf : ∀ start, first start c cs = .ok (t, text, rest))
    (h : Scans rest toks) : Scans (c :: cs) (t :: toks) := by
  intro start
  obtain ⟨ts, hs, hm⟩ := h (start + Text.bytes text)
  refine ⟨⟨t, start, text⟩ :: ts, ?_, by simp [hm]⟩
  rw [scanFrom_cons hw (hf start), hs]
  rfl

theorem first_name {c : Char} {cs : List Char} (hn : isName (c :: cs)) (rest : List Char)
    (hr : ∀ d ∈ rest.head?, isNameChar d = false) (start : Nat) :
    first start c (cs ++ rest) = .ok (.ident (String.ofList (c :: cs)), c :: cs, rest) := by
  have hs : isNameStart c ∧ ∀ d ∈ cs, isNameChar d := by simpa [isName] using hn
  rw [first, if_neg (by simp [not_isDigit_of_isNameStart hs.1]), if_pos hs.1,
    Text.takeWhile_append_of_stop hs.2 hr, Text.dropWhile_append_of_stop hs.2 hr]

theorem not_white_of_single {c : Char} {s : Sym} (hs : single? c = some s) :
    Unicode.isWhite c = false := by
  unfold single? at hs
  split at hs <;> first | rfl | cases hs

theorem first_single {c : Char} {s : Sym} (hs : single? c = some s) (hp : ∀ d, pair? c d = none)
    (start : Nat) (cs : List Char) : first start c cs = .ok (.sym s, [c], cs) := by
  have hc : c.isDigit = false ∧ isNameStart c = false ∧ c ≠ '"' := by
    unfold single? at hs
    split at hs <;> first | exact ⟨rfl, rfl, by decide⟩ | cases hs
  rw [first, if_neg (by simp [hc.1]), if_neg (by simp [hc.2.1]), if_neg hc.2.2]
  cases cs with
  | nil => simp [symbol?, hs]
  | cons d cs => simp [symbol?, hp, hs]

theorem Scans.single {c : Char} {s : Sym} {rest : List Char} {toks : List Tok}
    (hs : single? c = some s) (hp : ∀ d, pair? c d = none) (h : Scans rest toks) :
    Scans (c :: rest) (.sym s :: toks) :=
  .cons (not_white_of_single hs) (fun start => first_single hs hp start rest) h

theorem Scans.name {name : String} {rest : List Char} {toks : List Tok} (hn : isName name.toList)
    (hr : ∀ d ∈ rest.head?, isNameChar d = false) (h : Scans rest toks) :
    Scans (name.toList ++ rest) (.ident name :: toks) := by
  obtain ⟨c, cs, hc⟩ := List.exists_cons_of_ne_nil (ne_nil_of_isName hn)
  have hw := not_white_of_isName hn c (by simp [hc])
  have hf := first_name (hc ▸ hn) rest hr
  rw [← hc, String.ofList_toList, hc] at hf
  rw [hc]
  exact .cons hw hf h

def dottedToks (names : List String) : List Tok := names.flatMap fun m => [.sym .dot, .ident m]

theorem head?_dotted (names : List String) :
    ∀ d ∈ (names.flatMap fun m => '.' :: m.toList).head?, isNameChar d = false := by
  cases names with
  | nil => exact nofun
  | cons m ms =>
    rintro d ⟨⟩
    decide

theorem scans_dotted {names : List String} (hn : ∀ m ∈ names, isName m.toList) :
    Scans (names.flatMap fun m => '.' :: m.toList) (dottedToks names) := by
  induction names with
  | nil => exact .nil
  | cons m ms ih =>
    obtain ⟨hm, hms⟩ := List.forall_mem_cons.1 hn
    exact .single rfl (fun _ => rfl) (.name hm (head?_dotted ms) (ih hms))

theorem dottedNames_of_map {names : List String} {ts : List Token}
    (h : ts.map Token.tok = dottedToks names) : DottedNames ts names := by
  induction names generalizing ts with
  | nil =>
    obtain rfl := List.map_eq_nil_iff.1 h
    exact .nil
  | cons m ms ih =>
    obtain ⟨d, ts, rfl, hd, ht⟩ := List.map_eq_cons_iff.1 h
    obtain ⟨t, ts, rfl, ht, hs⟩ := List.map_eq_cons_iff.1 ht
    exact .cons hd ht (ih hs)

end Token

namespace Parser
variable {stop : Nat} {lower : Option Grammar} {t : Token} {ts rest : List Token} {name : String}
  {names : List String}

theorem operand_succ {r : Nat} {e : Expr} (h : operand stop lower r ts = .ok (e, rest)) :
    operand stop lower (r + 1) ts = chain stop lower (r + 1) e rest := by
  simp [operand, h]

theorem operand_of_unary {e : Expr} (h : unary stop lower ts = .ok (e, rest)) (r : Nat)
    (hr : EndsBefore (.operand r) rest) : operand stop lower r ts = .ok (e, rest) := by
  induction r with
  | zero => exact h
  | succ r ih =>
    rw [operand_succ (ih (hr.tighter (Nat.le_succ r)))]
    exact chain_of_endsBefore hr

theorem unary_of_primary {e : Expr} (hb : Begins .primary ts)
    (h : primary stop (expr stop lower) ts = .ok (e, rest)) (hr : EndsBefore .suffixed rest) :
    unary stop lower ts = .ok (e, rest) := by
  rw [unary, unaryOp?_eq_none hb, h]
  exact suffix_of_endsBefore hr

theorem conditional_of_unary {e : Expr} (h : unary stop lower ts = .ok (e, rest))
    (hr : EndsBefore .expr rest) : conditional stop lower ts = .ok (e, rest) := by
  rw [conditional, operand_of_unary h 5 hr.operand, ok_bind]
  simp [starts_question hr]

theorem unary_path (h : t.tok = .ident name) (ht : name ≠ "true") (hf : name ≠ "false")
    (hn : DottedNames ts names) (hr : EndsBefore .suffixed rest) :
    unary stop lower (t :: (ts ++ rest)) = .ok (.path (name :: names), rest) := by
  refine unary_of_primary (begins_other (by simp [h])) ?_ hr
  simp [primary, h, dottedName_append hn hr.primary]

theorem operand_path (h : t.tok = .ident name) (ht : name ≠ "true") (hf : name ≠ "false")
    (hn : DottedNames ts names) (r : Nat) (hr : EndsBefore (.operand r) rest) :
    operand stop lower r (t :: (ts ++ rest)) = .ok (.path (name :: names), rest) :=
  operand_of_unary (unary_path h ht hf hn hr.suffixed) r hr

theorem conditional_path (h : t.tok = .ident name) (ht : name ≠ "true") (hf : name ≠ "false")
    (hn : DottedNames ts names) (hr : EndsBefore .expr rest) :
    conditional stop lower (t :: (ts ++ rest)) = .ok (.path (name :: names), rest) :=
  conditional_of_unary (unary_path h ht hf hn (hr.operand (r := 0)).suffixed) hr

end Parser

/-- The text of a path is read as the path, unless it begins with a truth value. -/
theorem Expr.parse_dotted {name : String} {names : List String}
    (hn : ∀ m ∈ name :: names, isName m.toList) (ht : name ≠ "true") (hf : name ≠ "false") :
    Expr.parse (Text.dotted (name :: names)).toList = .ok (.path (name :: names)) := by
  obtain ⟨hm, hms⟩ := List.forall_mem_cons.1 hn
  have hs := Token.Scans.name hm (Token.head?_dotted names) (Token.scans_dotted hms)
  obtain ⟨ts, hts, hmap⟩ := hs 0
  obtain ⟨t, ts, rfl, hi, hd⟩ := List.map_eq_cons_iff.1 hmap
  have hc (lower : Option Parser.Grammar) (stop : Nat) :
      Parser.conditional stop lower (t :: (ts ++ [])) = .ok (.path (name :: names), []) :=
    Parser.conditional_path hi ht hf (Token.dottedNames_of_map hd) nofun
  rw [List.append_nil] at hc
  rw [Expr.parse, Token.scan, Text.toList_dotted, hts, ok_bind, Expr.ofTokens_eq_ok_iff]
  exact hc _ _

end Tether
