import Mathlib
import Tether.Proofs.Native.Names
import Tether.Proofs.Native.Numbers
import Tether.Proofs.Text.Casing
import Tether.Proofs.Text.Parts

/-! The functions on texts. Joining undoes splitting (`Evaluator.join_split`), and a text in one of
the case styles is not changed any more but for its separators (`Evaluator.recase_styled`). -/
namespace Tether
open Text (Parted Ascii isWordSeparator caseWords)

namespace Builtin
variable {s sep : String} {ps : List String}

theorem toList_ne_nil (h : sep ≠ "") : sep.toList ≠ [] := fun he =>
  h (String.toList_eq_nil_iff.1 he)

theorem exists_parted (h : sep ≠ "") (s : String) :
    ∃ ps : List String, Parted sep.toList (ps.map String.toList) s.toList := by
  refine ⟨(Text.parts sep.toList s.toList).map String.ofList, ?_⟩
  have hid : String.toList ∘ String.ofList = id := funext fun _ => String.toList_ofList
  rw [List.map_map, hid, List.map_id]
  exact Text.parted_parts (toList_ne_nil h) s.toList

theorem split_parted (h : sep ≠ "") (hp : Parted sep.toList (ps.map String.toList) s.toList) :
    split (.str s) (.str sep) = .ok (.list (ps.map .str)) := by
  have he := (Text.parted_iff (toList_ne_nil h)).1 hp
  simp [split, Value.asString, h, he]

theorem join_parted (hp : Parted sep.toList (ps.map String.toList) s.toList) :
    join (.list (ps.map .str)) (.str sep) = .ok (.str s) := by
  have hj : Text.joinStrings sep ps = s := by
    rw [Text.joinStrings, hp.join_eq, String.ofList_toList]
  have hm : (ps.map Value.str).map Value.plainText = ps := by
    rw [List.map_map]
    exact List.map_id ps
  rw [join, Value.asString, Value.asList, ok_bind, ok_bind, hm, hj]
  rfl

end Builtin

/-- No parameter and no binding around the place has the name. -/
structure Scope.Unbound (s : Scope) (d : Document) (name : String) : Prop where
  params : s.locals.lookup name = none
  bindings : d.home? s.block name = none

inductive CaseStyle where
  | snake | kebab

namespace CaseStyle

def path : CaseStyle → String
  | snake => "strings.case.snake"
  | kebab => "strings.case.kebab"

def separator : CaseStyle → Char
  | snake => '_'
  | kebab => '-'

def text (style : CaseStyle) (ws : List (List Char)) : String :=
  String.ofList (Text.join [style.separator] ws)

theorem isWordSeparator_separator (style : CaseStyle) : isWordSeparator style.separator := by
  cases style with
  | snake | kebab => rfl

end CaseStyle

namespace Evaluator
variable {d : Document} {r : Reach} {scope : Scope} {name : String} {n : Nat}

theorem call_split (v w : Value) :
    call d (some r) (.builtin "split") [v, w] = Builtin.split v w :=
  call_builtin (f := .ofBinary "split" .string .string fun _ => Builtin.split) rfl rfl

theorem call_join (v w : Value) :
    call d (some r) (.builtin "join") [v, w] = Builtin.join v w :=
  call_builtin (f := .ofBinary "join" .any .string fun _ => Builtin.join) rfl rfl

theorem call_recase (style : CaseStyle) (s : String) :
    call d (some r) (.library style.path) [.str s] =
      .ok (.str (style.text (caseWords s.toList))) := by
  cases style with
  | snake | kebab => rfl

theorem eval_call_builtin {f : Native} (h : scope.Unbound d name)
    (hf : Builtin.find? name = some f) (args : List Expr) :
    eval d r scope (.call (.path [name]) args) =
      evalList d r scope args >>= r.call (.builtin name) := by
  have hn : eval d r scope (.path [name]) = .ok (.func (.builtin name)) := by
    simp only [eval, resolve, h.params, h.bindings, nativeValue, hf, Builtin.name_of_find? hf]
  rw [eval, hn]
  rfl

/-- Splitting a text at a separator that is not empty gives the parts between the leftmost
separators, none of which holds another, and joining these gives the text; so does the expression
that does both, where its two names are not those of parameters or bindings. -/
theorem join_split (d : Document) (n : Nat) (s : String) {sep : String} (h : sep ≠ "") :
    ∃ ps : List String,
      (reach d (n + 1)).call (.builtin "split") [.str s, .str sep] = .ok (.list (ps.map .str)) ∧
      Parted sep.toList (ps.map String.toList) s.toList ∧
      (∀ p ∈ ps, ¬ sep.toList <:+: p.toList) ∧
      (reach d (n + 1)).call (.builtin "join") [.list (ps.map .str), .str sep] = .ok (.str s) ∧
      ∀ (scope : Scope) (a b : Expr), scope.Unbound d "join" → scope.Unbound d "split" →
        eval d (reach d (n + 1)) scope a = .ok (.str s) →
        eval d (reach d (n + 1)) scope b = .ok (.str sep) →
        eval d (reach d (n + 1)) scope
          (.call (.path ["join"]) [.call (.path ["split"]) [a, b], b]) = .ok (.str s) := by
  obtain ⟨ps, hp⟩ := Builtin.exists_parted h s
  have hsplit : (reach d (n + 1)).call (.builtin "split") [.str s, .str sep] =
      .ok (.list (ps.map .str)) := by
    rw [call_reach, call_split, Builtin.split_parted h hp]
  have hjoin : (reach d (n + 1)).call (.builtin "join") [.list (ps.map .str), .str sep] =
      .ok (.str s) := by
    rw [call_reach, call_join, Builtin.join_parted hp]
  have hn : ∀ p ∈ ps, ¬ sep.toList <:+: p.toList := fun p hm =>
    hp.not_infix (Builtin.toList_ne_nil h) p.toList (List.mem_map_of_mem hm)
  refine ⟨ps, hsplit, hp, hn, hjoin, fun scope a b hj hs ha hb => ?_⟩
  have hinner : eval d (reach d (n + 1)) scope (.call (.path ["split"]) [a, b]) =
      .ok (.list (ps.map .str)) := by
    rw [eval_call_builtin hs rfl]
    simpa [evalList, ha, hb] using hsplit
  rw [eval_call_builtin hj rfl]
  simpa [evalList, hinner, hb] using hjoin

/-- The separator could begin at three places, two of which overlap. -/
theorem join_split_overlap :
    (reach ⟨[]⟩ 128).call (.builtin "split") [.str "aaab", .str "aa"] =
        .ok (.list [.str "", .str "ab"]) ∧
      "aa" ≠ "" ∧ ¬ "aa".toList <:+: "ab".toList ∧
      (⟨[]⟩ : Document).evaluate "join(split(\"aaab\", \"aa\"), \"aa\")" = .ok (.str "aaab") := by
  have hne : "aa" ≠ "" := by decide
  obtain ⟨ps, hs, -, hn, -, he⟩ := join_split ⟨[]⟩ 127 "aaab" hne
  have hv : (reach ⟨[]⟩ 128).call (.builtin "split") [.str "aaab", .str "aa"] =
      .ok (.list [.str "", .str "ab"]) := by rfl
  have hp : Expr.parse (Text.trim "join(split(\"aaab\", \"aa\"), \"aa\")".toList) =
      .ok (.call (.path ["join"])
        [.call (.path ["split"]) [.str "aaab", .str "aa"], .str "aa"]) := by
    cbv
  have hps : ps.map Value.str = [.str "", .str "ab"] := by
    simpa using hs.symm.trans hv
  obtain ⟨p, hm, hab⟩ := List.mem_map.1 (hps ▸ by simp : Value.str "ab" ∈ ps.map Value.str)
  cases hab
  refine ⟨hv, hne, hn "ab" hm, ?_⟩
  · rw [Document.evaluate, hp]
    exact he ⟨[], []⟩ _ _ ⟨rfl, rfl⟩ ⟨rfl, rfl⟩ rfl rfl

/-- The words of an ASCII text are all of it but the separators, in lower case; none of them is
empty or holds a separator. In a style they stand with the separator of the style between them, and
what comes out is changed by a style as the text itself is. -/
theorem recase_styled (d : Document) (n : Nat) {s : String} (h : Ascii s.toList) :
    ∃ ws : List (List Char),
      (∀ w ∈ ws, w ≠ [] ∧ ∀ c ∈ w, isWordSeparator c = false) ∧
      ws.flatten = (s.toList.filter fun c => !isWordSeparator c).map Char.toLower ∧
      (∀ style : CaseStyle, (reach d (n + 1)).call (.library style.path) [.str s] =
        .ok (.str (style.text ws))) ∧
      ∀ style style' : CaseStyle,
        (reach d (n + 1)).call (.library style'.path) [.str (style.text ws)] =
          (reach d (n + 1)).call (.library style'.path) [.str s] := by
  have hl := Text.lowered_caseWords h
  have hw (style : CaseStyle) :
      caseWords (style.text (caseWords s.toList)).toList = caseWords s.toList := by
    rw [CaseStyle.text, String.toList_ofList,
      Text.caseWords_join style.isWordSeparator_separator hl]
  rw [call_reach]
  refine ⟨caseWords s.toList, fun w hw => ⟨(hl w hw).nonempty, fun c hc => ?_⟩,
    Text.flatten_caseWords h, fun style => call_recase style s, fun style style' => ?_⟩
  · exact ((hl w hw).chars c hc).inside
  · rw [call_recase, call_recase, hw]

/-- Capitals in a row, a capital behind a digit, and two separators in a row. -/
theorem recase_styled_mixed :
    Ascii "HTTPServer-v2Beta__x".toList ∧
      (reach ⟨[]⟩ 1).call (.library "strings.case.snake") [.str "HTTPServer-v2Beta__x"] =
        .ok (.str "httpserver_v2_beta_x") ∧
      (reach ⟨[]⟩ 1).call (.library "strings.case.kebab") [.str "httpserver_v2_beta_x"] =
        .ok (.str "httpserver-v2-beta-x") := by
  have ha : Ascii "HTTPServer-v2Beta__x".toList := by decide
  have hv : (reach ⟨[]⟩ 1).call (.library "strings.case.snake") [.str "HTTPServer-v2Beta__x"] =
      .ok (.str "httpserver_v2_beta_x") := by rfl
  obtain ⟨ws, -, -, hs, hr⟩ := recase_styled ⟨[]⟩ 0 ha
  have ht : CaseStyle.snake.text ws = "httpserver_v2_beta_x" := by
    simpa using (hs .snake).symm.trans hv
  refine ⟨ha, hv, ?_⟩
  have hk := hr .snake .kebab
  rw [ht] at hk
  exact hk

end Evaluator

end Tether
