import Tether.Proofs.Expr.Levels
import Tether.Proofs.Value.Tokens

/-! Data is read back from its text. The tokens it is written with are read as its literal
(`Value.Plain.parsed`), and that evaluates to the value in every document
(`Value.Plain.eval_literal`). Lists may nest as deep as the levels of nesting allow
(`Document.evaluate_text_of_plain`). -/
namespace Tether

namespace Value
open Number

mutual

/-- The expression data is written as; what is no data has an empty list. -/
def literal : Value → Expr
  | int n => if n.toInt < 0 then .unary .neg (.int (magnitude n)) else .int (magnitude n)
  | str s => .str s
  | bool b => .bool b
  | list vs => .list (literals vs)
  | float _ | record _ | func _ => .list []

def literals : List Value → List Expr
  | [] => []
  | v :: vs => v.literal :: literals vs

end

section Parse
open Tether.Parser
variable {stop k : Nat} {v : Value} {vs : List Value} {ts rest : List Token}

/-- The tokens of a value are read as its literal, with `k` further levels. -/
def Parsed (stop k : Nat) (v : Value) : Prop :=
  ∀ ts rest, ts.map Token.tok = v.toks → EndsBefore .suffixed rest →
    unary stop (below stop k) (ts ++ rest) = .ok (v.literal, rest)

theorem parsed_single {t : Tok} (ht : v.toks = [t]) (hs : ∀ s, t ≠ .sym s)
    (hp : ∀ u rest, u.tok = t →
      primary stop (expr stop (below stop k)) (u :: rest) = .ok (v.literal, rest)) :
    Parsed stop k v := by
  intro ts rest hm hr
  obtain ⟨u, us, rfl, hu, hn⟩ := List.map_eq_cons_iff.1 (hm.trans ht)
  obtain rfl := List.map_eq_nil_iff.1 hn
  exact unary_of_primary (begins_other (hu ▸ hs)) (hp u rest hu) hr

theorem parsed_int (n : Int64) : Parsed stop (k + 1) (int n) := by
  have hp (lower : Option Grammar) (u : Token) (rest : List Token)
      (hu : u.tok = .int (magnitude n)) :
      primary stop (expr stop lower) (u :: rest) = .ok (.int (magnitude n), rest) := by
    simp [primary, hu]
  by_cases h : n.toInt < 0
  · intro ts rest hm hr
    rw [Value.toks, if_pos h] at hm
    obtain ⟨m, us, rfl, hs, hus⟩ := List.map_eq_cons_iff.1 hm
    obtain ⟨u, us, rfl, hu, hn⟩ := List.map_eq_cons_iff.1 hus
    obtain rfl := List.map_eq_nil_iff.1 hn
    have hx : (grammar stop k).unary (u :: rest) = .ok (.int (magnitude n), rest) := by
      rw [grammar_eq_level]
      exact unary_of_primary (begins_other (by simp [hu])) (hp _ u rest hu) hr
    rw [unary, List.cons_append, unaryOp?_cons .neg hs, literal, if_pos h]
    simp [below, descend, hx]
  · have ht : (int n).toks = [.int (magnitude n)] := by simp [Value.toks, h]
    refine parsed_single ht (by simp) ?_
    rw [literal, if_neg h]
    exact hp _

theorem parsed_bool (b : Bool) : Parsed stop k (bool b) := by
  cases b <;> exact parsed_single rfl (by simp) fun u rest hu => by simp [primary, hu, literal]

theorem parsed_str (s : String) : Parsed stop k (str s) :=
  parsed_single rfl (by simp) fun u rest hu => by simp [primary, hu, literal]

theorem Parsed.conditional (h : Parsed stop k v) (hm : ts.map Token.tok = v.toks)
    (hr : EndsBefore .expr rest) :
    conditional stop (below stop k) (ts ++ rest) = .ok (v.literal, rest) :=
  conditional_of_unary (h ts rest hm (hr.operand (r := 0)).suffixed) hr

theorem Parsed.begins (h : Parsed stop k v) (hm : ts.map Token.tok = v.toks) : Begins .expr ts := by
  have hx : (grammar stop k).conditional ts = .ok (v.literal, []) := by
    rw [grammar_eq_level, ← List.append_nil ts]
    exact h.conditional hm nofun
  obtain ⟨us, hu, hd⟩ := (sound_grammar k).conditional _ _ _ hx
  rw [List.append_nil] at hu
  exact hu ▸ hd.begins nofun

theorem length_le_moreToks (vs : List Value) : vs.length ≤ (moreToks vs).length := by
  induction vs with
  | nil => exact Nat.le_refl 0
  | cons v vs ih =>
    rw [moreToks, List.length_cons, List.length_cons, List.length_append]
    omega

theorem items_toks (h : ∀ w ∈ v :: vs, Parsed stop k w) {m : Nat} (hm : vs.length < m)
    {r : Token} (hr : r.tok = .sym .rbracket) (ht : ts.map Token.tok = v.toks ++ moreToks vs) :
    items stop (expr stop (below stop (k + 1))) .rbracket m (ts ++ r :: rest) =
      .ok (literals (v :: vs), rest) := by
  obtain _ | m := m
  · cases hm
  induction vs generalizing v ts m with
  | nil =>
    rw [moreToks, List.append_nil] at ht
    have he : EndsBefore .expr (r :: rest) := endsBefore_cons hr rfl
    have hx := (h v List.mem_cons_self).conditional ht he
    simp [items, expr_below, hx, starts_cons hr, literals]
  | cons w ws ih =>
    obtain ⟨hv, hws⟩ := List.forall_mem_cons.1 h
    obtain ⟨us, cs, rfl, hu, hcs⟩ := List.map_eq_append_iff.1 ht
    obtain ⟨c, cs, rfl, hc, hcs⟩ := List.map_eq_cons_iff.1 hcs
    have he : EndsBefore .expr (c :: (cs ++ r :: rest)) := endsBefore_cons hc rfl
    have hx := hv.conditional hu he
    obtain _ | m := m
    · simp at hm
    have hi := ih hws hcs m (Nat.lt_of_succ_lt_succ hm)
    rw [List.append_assoc, items, expr_below, List.cons_append, hx]
    simp [starts_cons hc, expect_cons hc, hi, literals]

theorem commaList_toks (h : ∀ w ∈ v :: vs, Parsed stop k w) {r : Token}
    (hr : r.tok = .sym .rbracket) (ht : ts.map Token.tok = v.toks ++ moreToks vs) :
    commaList stop (expr stop (below stop (k + 1))) .rbracket (ts ++ r :: rest) =
      .ok (literals (v :: vs), rest) := by
  have hlen : vs.length < (ts ++ r :: rest).length + 1 := by
    have hle := length_le_moreToks vs
    have hl := congrArg List.length ht
    rw [List.length_map, List.length_append] at hl
    rw [List.length_append]
    omega
  have hf : starts .rbracket (ts ++ r :: rest) = false := by
    obtain ⟨us, ms, rfl, hu, -⟩ := List.map_eq_append_iff.1 ht
    rw [List.append_assoc]
    exact starts_eq_false (((h v List.mem_cons_self).begins hu).append _) rfl
  rw [commaList, hf]
  exact items_toks h hlen hr ht

theorem parsed_list (h : ∀ v ∈ vs, Parsed stop k v) : Parsed stop (k + 1) (list vs) := by
  intro ts rest hm hr
  cases vs with
  | nil =>
    obtain ⟨l, us, rfl, hl, hus⟩ := List.map_eq_cons_iff.1 hm
    obtain ⟨r, us, rfl, hrt, hn⟩ := List.map_eq_cons_iff.1 hus
    obtain rfl := List.map_eq_nil_iff.1 hn
    refine unary_of_primary (begins_sym hl rfl) ?_ hr
    simp [primary, hl, commaList, starts_cons hrt, literal, literals]
  | cons v vs =>
    obtain ⟨l, us, rfl, hl, hus⟩ := List.map_eq_cons_iff.1 hm
    rw [← List.append_assoc] at hus
    obtain ⟨us, rs, rfl, hu, hrs⟩ := List.map_eq_append_iff.1 hus
    obtain ⟨r, rs, rfl, hrt, hn⟩ := List.map_eq_cons_iff.1 hrs
    obtain rfl := List.map_eq_nil_iff.1 hn
    refine unary_of_primary (begins_sym hl rfl) ?_ hr
    simp [primary, hl, commaList_toks h hrt hu, literal]

theorem Plain.parsed (h : Plain k v) : Parsed stop (k + 1) v := by
  induction h with
  | int hn => exact parsed_int _
  | bool => exact parsed_bool _
  | str hc => exact parsed_str _
  | list h ih => exact parsed_list ih

end Parse

section Evaluate
open Evaluator
variable {d : Document} {r : Reach} {s : Scope}

theorem evalList_literals {vs : List Value} (h : ∀ v ∈ vs, eval d r s v.literal = .ok v) :
    evalList d r s (literals vs) = .ok vs := by
  induction vs with
  | nil => rfl
  | cons v vs ih =>
    obtain ⟨hv, hvs⟩ := List.forall_mem_cons.1 h
    simp [literals, evalList, hv, ih hvs]

theorem eval_int {n : Int64} (hn : n ≠ Int64.minValue) :
    eval d r s (int n).literal = .ok (int n) := by
  have hm := toInt_magnitude hn
  by_cases h : n.toInt < 0
  · have he : -(n.toInt.natAbs : Int) = n.toInt := by omega
    obtain ⟨m, hi, ho⟩ := ofInt_of_fits (fits_toInt n)
    rw [literal, if_pos h, eval, eval, ok_bind]
    change (int (magnitude n)).neg = .ok (int n)
    rw [Value.neg, hm, he, ho, Int64.toInt_inj.1 hi]
  · have he : (n.toInt.natAbs : Int) = n.toInt := by omega
    rw [literal, if_neg h, eval, Int64.toInt_inj.1 (hm.trans he)]

theorem Plain.eval_literal {k : Nat} {v : Value} (h : Plain k v) :
    eval d r s v.literal = .ok v := by
  induction h with
  | int hn => exact eval_int hn
  | bool => rfl
  | str hc => rfl
  | list h ih => simp [literal, eval, evalList_literals ih]

end Evaluate

theorem Plain.readsWithin {k : Nat} {v : Value} (h : Plain k v) :
    Expr.ReadsWithin (k + 2) v.text.toList v.literal := by
  obtain ⟨ts, hs, hm⟩ := h.scanned [] [] nofun .nil 0
  rw [List.append_nil] at hs hm
  refine ⟨ts, hs, ?_⟩
  generalize Text.bytes v.text.toList = stop
  have he : EndsBefore .expr [] := nofun
  have hx := (@h.parsed stop).conditional hm he
  rw [List.append_nil] at hx
  rw [Parser.grammar_eq_level]
  exact (Parser.expr_below (k + 1) ts).trans hx

end Value

open Value

/-- The text of data is an expression for it in every document. -/
theorem Document.evaluate_text_of_plain {v : Value} (h : v.Plain 126) (d : Document) :
    d.evaluate v.text = .ok v := by
  rw [evaluate, Text.trim_eq_self h.trimmed, Expr.parse_eq_ok_iff.2 h.readsWithin]
  exact h.eval_literal

/-- A negative number, a text with escapes, and an empty list. -/
theorem Document.evaluate_text_of_plain_escaped :
    (list [int (-12), list [str "a \"b\"\n\\"], bool true, list []]).text =
      "[-12, [\"a \\\"b\\\"\\n\\\\\"], true, []]" ∧
    Document.evaluate ⟨[]⟩ "[-12, [\"a \\\"b\\\"\\n\\\\\"], true, []]" =
      .ok (list [int (-12), list [str "a \"b\"\n\\"], bool true, list []]) := by
  have ht : (list [int (-12), list [str "a \"b\"\n\\"], bool true, list []]).text =
      "[-12, [\"a \\\"b\\\"\\n\\\\\"], true, []]" := by cbv
  have hs : Plain 124 (str "a \"b\"\n\\") := .str (by simp [Readable])
  have hp : Plain 126 (list [int (-12), list [str "a \"b\"\n\\"], bool true, list []]) := by
    refine .list (List.forall_mem_cons.2 ⟨.int (by decide), ?_⟩)
    refine List.forall_mem_cons.2 ⟨.list (List.forall_mem_singleton.2 hs), ?_⟩
    exact List.forall_mem_cons.2 ⟨.bool, List.forall_mem_singleton.2 (.list (by simp))⟩
  exact ⟨ht, ht ▸ evaluate_text_of_plain hp ⟨[]⟩⟩

end Tether
