import Mathlib.Data.String.Basic
import Tether.Proofs.Native.Callbacks
import Tether.Proofs.Native.Numbers
import Tether.Proofs.Text.Split

/-! The limit on what the functions make. Most functions make nothing that is longer than it from
arguments that are not; eight of them do (`Evaluator.keepsLimit_iff`). -/
namespace Tether

namespace Unicode

/-- Without a sigma no character looks at its neighbours. -/
theorem lowerAfter_of_not_mem {cs : List Char} (h : 'Σ' ∉ cs) (seen out : List Char) :
    lowerAfter seen out cs = out.reverse ++ cs.flatMap lowerChar := by
  induction cs generalizing seen out with
  | nil => simp [lowerAfter]
  | cons c cs ih =>
    obtain ⟨hc, hcs⟩ := not_or.1 (mt List.mem_cons.2 h)
    rw [lowerAfter, if_neg (Ne.symm hc), ih hcs]
    simp

theorem lower_of_not_mem {cs : List Char} (h : 'Σ' ∉ cs) : lower cs = cs.flatMap lowerChar :=
  lowerAfter_of_not_mem h [] []

end Unicode

namespace Text
open Unicode (lowerChar isLowercase)

theorem caseWordsFrom_of_joined {cs : List Char}
    (h : ∀ c ∈ cs, isWordSeparator c = false ∧ (isLowercase c || c.isDigit) = false)
    (done : List (List Char)) (word : List Char) :
    caseWordsFrom done word false cs =
      (closeWord done ((cs.flatMap lowerChar).reverse ++ word)).reverse := by
  induction cs generalizing word with
  | nil => rfl
  | cons c cs ih =>
    obtain ⟨⟨hs, hl⟩, hcs⟩ := List.forall_mem_cons.1 h
    rw [caseWordsFrom, hs, hl]
    simp [ih hcs]

theorem utf8Len_flatten_replicate (n : Nat) (cs : List Char) :
    String.utf8Len (List.replicate n cs).flatten = n * String.utf8Len cs := by
  induction n with
  | zero => simp
  | succ n ih =>
    rw [List.replicate_succ, List.flatten_cons, String.utf8Len_append, ih, Nat.succ_mul,
      Nat.add_comm]

theorem utf8Len_replicate (n : Nat) (c : Char) :
    String.utf8Len (List.replicate n c) = n * c.utf8Size := by
  simpa using utf8Len_flatten_replicate n [c]

end Text

namespace Value
variable {n : Nat} {v : Value}

def size : Value → Nat
  | str s => s.utf8ByteSize
  | list vs => vs.length
  | _ => 0

/-- All strings and lists in the value, and it itself, are at most `n` long. -/
inductive Within (n : Nat) : Value → Prop
  | int (k : Int64) : Within n (int k)
  | float (x : Float) : Within n (float x)
  | str {s : String} (h : s.utf8ByteSize ≤ n) : Within n (str s)
  | bool (b : Bool) : Within n (bool b)
  | list {vs : List Value} (h : vs.length ≤ n) (hv : ∀ v ∈ vs, Within n v) : Within n (list vs)
  | record {fs : List (String × Value)} (h : ∀ f ∈ fs, Within n f.2) : Within n (record fs)
  | func (f : Func) : Within n (func f)

theorem Within.size_le (h : v.Within n) : v.size ≤ n := by
  cases h with
  | str h | list h => exact h
  | _ => exact n.zero_le

theorem Within.items (h : v.Within n) (vs : List Value) (hv : v = Value.list vs) :
    ∀ w ∈ vs, w.size ≤ n := by
  subst hv
  cases h with
  | list _ hvs => exact fun w hw => (hvs w hw).size_le

theorem Within.length_le (h : v.Within n) (vs : List Value) (hv : v = Value.list vs) :
    vs.length ≤ n := by
  subst hv
  exact h.size_le

theorem Within.replicate (hv : v.Within n) : (Value.list (List.replicate n v)).Within n :=
  .list (by simp) fun w hw => List.eq_of_mem_replicate hw ▸ hv

theorem Scalar.within (h : v.Scalar) : v.Within n := by
  cases h with
  | int k => exact .int k
  | float x => exact .float x
  | bool b => exact .bool b

theorem Scalar.size_le (h : v.Scalar) : v.size ≤ n := h.within.size_le

theorem gives_asString {function : String} (h : v.Within n) :
    Gives (fun s => s.utf8ByteSize ≤ n) (v.asString function) := by
  cases v with
  | str s => exact .ok h.size_le
  | _ => exact .error _

end Value

namespace Native
open Value

def KeepsLimit (f : Native) : Prop :=
  ∀ call args, (∀ v ∈ args, v.Within maxGenerated) →
    Gives (fun v => v.size ≤ maxGenerated) (f.run call args)

/-- Of some arguments within the limit the function makes something that is longer. -/
def Exceeds (f : Native) : Prop :=
  ∃ args v, f.type.accepts args.length ∧ (∀ w ∈ args, w.Within maxGenerated) ∧
    (∀ call, f.run call args = .ok v) ∧ maxGenerated < v.size

section Shapes
variable {name : String} {kind first second : ParamKind}

theorem keepsLimit_ofUnary {f : Value → Result Value}
    (h : ∀ v, v.Within maxGenerated → Gives (fun v => v.size ≤ maxGenerated) (f v)) :
    (ofUnary name kind f).KeepsLimit := by
  intro call args ha
  unfold ofUnary
  dsimp only
  split
  next v => exact h v (ha v List.mem_cons_self)
  · exact .error _

theorem keepsLimit_ofBinary {f : Call → Value → Value → Result Value}
    (h : ∀ call v w, v.Within maxGenerated → Gives (fun v => v.size ≤ maxGenerated) (f call v w)) :
    (ofBinary name first second f).KeepsLimit := by
  intro call args ha
  unfold ofBinary
  dsimp only
  split
  next v w => exact h call v w (ha v (by simp))
  · exact .error _

theorem KeepsLimit.ofUnary {f : Value → Result Value} (h : ∀ v, Gives Scalar (f v)) :
    (Native.ofUnary name kind f).KeepsLimit :=
  keepsLimit_ofUnary fun v _ => (h v).imp fun _ => Scalar.size_le

theorem KeepsLimit.ofBinary {f : Call → Value → Value → Result Value}
    (h : ∀ call v w, Gives Scalar (f call v w)) :
    (Native.ofBinary name first second f).KeepsLimit :=
  keepsLimit_ofBinary fun call v w _ => (h call v w).imp fun _ => Scalar.size_le

/-- A function that turns a character of two bytes into three bytes, again and again. -/
theorem exceeds_ofText {f : Value → Result Value} {g : List Char → List Char} (c : Char)
    (cs : List Char) (hf : ∀ s, f (str s) = .ok (str (String.ofList (g s.toList))))
    (hg : ∀ n, g (List.replicate (n + 1) c) = (List.replicate (n + 1) cs).flatten)
    (hc : c.utf8Size = 2) (hcs : String.utf8Len cs = 3) :
    (Native.ofUnary name kind f).Exceeds := by
  obtain ⟨n, hn⟩ : ∃ n, maxGenerated = (n + 1) * 2 := ⟨2 ^ 19 - 1, rfl⟩
  refine ⟨[str (String.ofList (List.replicate (n + 1) c))], _, rfl, ?_, fun _ => hf _, ?_⟩
  · refine List.forall_mem_singleton.2 (.str ?_)
    rw [String.utf8ByteSize_ofList, Text.utf8Len_replicate, hc, hn]
  · rw [size, String.utf8ByteSize_ofList, String.toList_ofList, hg, Text.utf8Len_flatten_replicate,
      hcs, hn]
    omega

end Shapes

end Native

namespace Builtin
open Value

section Loops
variable {vs : List Value}

theorem gives_keep (test : Value → Result Bool) (kept : List Value) :
    Gives (fun ws => ws.length ≤ kept.length + vs.length) (keep test kept vs) := by
  induction vs generalizing kept with
  | nil => exact .ok (by simp)
  | cons v vs ih =>
    refine .read fun b => ?_
    cases b with
    | false => exact (ih kept).imp fun ws hw => hw.trans (by simp)
    | true => exact (ih (v :: kept)).imp fun ws hw => hw.trans (by simp; omega)

theorem gives_mapItems (f : Value → Result Value) (done : List Value) :
    Gives (fun ws => ws.length = done.length + vs.length) (mapItems f done vs) := by
  induction vs generalizing done with
  | nil => exact .ok (by simp)
  | cons v vs ih =>
    refine .read fun w => (ih (w :: done)).imp fun ws hw => ?_
    rw [hw, List.length_cons, List.length_cons]
    omega

end Loops

section Kept
variable {n : Nat} {v : Value} (h : v.Within n)
include h

theorem size_filter (call : Call) (w : Value) :
    Gives (fun v => v.size ≤ n) (filter call v w) := by
  refine (gives_asList h.length_le).bind fun vs hvs => .read fun f => ?_
  exact (gives_keep (holds call f) []).bind fun ws hws => .ok (hws.trans (by simpa using hvs))

theorem size_map (call : Call) (w : Value) : Gives (fun v => v.size ≤ n) (map call v w) := by
  refine (gives_asList h.length_le).bind fun vs hvs => .read fun f => ?_
  exact (gives_mapItems _ []).bind fun ws hws => .ok (hws.le.trans (by simpa using hvs))

theorem size_trim : Gives (fun v => v.size ≤ n) (trim v) := by
  refine (gives_asString h).bind fun s hs => .ok ?_
  rw [size, Text.trimString, String.utf8ByteSize_ofList]
  rw [← String.utf8Len_toList] at hs
  exact (String.utf8Len_le_of_sublist (Text.trim_sublist s.toList)).trans hs

end Kept

theorem gives_all (call : Call) (v w : Value) : Gives Scalar (all call v w) :=
  .read fun _ => .read fun _ => .read fun _ => .ok (.bool _)

theorem gives_any (call : Call) (v w : Value) : Gives Scalar (any call v w) :=
  .read fun _ => .read fun _ => .read fun _ => .ok (.bool _)

theorem size_range (v w : Value) : Gives (fun v => v.size ≤ maxGenerated) (range v w) := by
  refine .read fun a => .read fun b => ?_
  dsimp only
  split
  · exact .error _
  next hb =>
    refine .ok ?_
    rw [size, List.length_map, List.length_range]
    omega

theorem range_zero {b : Int64} {n : Nat} (hb : b.toInt = n) (hn : n ≤ maxGenerated) :
    ∃ vs : List Value, range (int 0) (int b) = .ok (list vs) ∧ vs.length = n ∧
      ∀ v ∈ vs, v.Scalar := by
  have h0 : (0 : Int64).toInt = 0 := rfl
  refine ⟨(List.range n).map fun (k : Nat) => int (Int64.ofInt k), ?_, by simp, ?_⟩
  · rw [range, asInt, asInt, ok_bind, ok_bind, hb, h0, if_neg (by omega), Int.sub_zero,
      Int.toNat_natCast]
    simp
  · simpa using fun k _ => .int _

theorem exceeds_upper : (Native.ofUnary "upper" .string upper).Exceeds :=
  Native.exceeds_ofText 'ŉ' (Unicode.upperChar 'ŉ') (fun _ => rfl)
    (fun _ => List.flatMap_replicate) rfl (by decide)

theorem exceeds_lower : (Native.ofUnary "lower" .string lower).Exceeds := by
  refine Native.exceeds_ofText 'Ⱥ' (Unicode.lowerChar 'Ⱥ') (fun _ => rfl) (fun n => ?_) rfl
    (by decide)
  rw [Unicode.lower_of_not_mem (by simp), List.flatMap_replicate]

def longest : String := String.ofList (List.replicate maxGenerated 'a')

theorem utf8ByteSize_longest : longest.utf8ByteSize = maxGenerated := by
  rw [longest, String.utf8ByteSize_ofList, Text.utf8Len_replicate]
  exact Nat.mul_one _

theorem within_longest : (str longest).Within maxGenerated := .str utf8ByteSize_longest.le

theorem within_letter : (str "a").Within maxGenerated := .str (by decide)

theorem exceeds_join : (Native.ofBinary "join" .any .string fun _ => join).Exceeds := by
  refine ⟨[list [str longest, str "a"], str ""], _, rfl, ?_, fun _ => rfl, ?_⟩
  · have he : (str "").Within maxGenerated := .str (by decide)
    have hl : (list [str longest, str "a"]).Within maxGenerated :=
      .list (by decide) (by simp [within_longest, within_letter])
    simp [hl, he]
  · have ha : "a".utf8ByteSize = 1 := rfl
    simp [size, Text.joinStrings, Text.join, plainText, utf8ByteSize_longest, ha]

theorem exceeds_split : (Native.ofBinary "split" .string .string fun _ => split).Exceeds := by
  refine ⟨[str longest, str "a"], _, rfl, by simp [within_longest, within_letter], fun _ => rfl, ?_⟩
  rw [size, List.length_map, show "a".toList = ['a'] from rfl, Text.length_parts_singleton, longest,
    String.toList_ofList, List.count_replicate_self]
  exact Nat.lt_succ_self _

theorem utf8ByteSize_plainText (s : String) :
    (list [str s]).plainText.utf8ByteSize =
      String.utf8Len (s.toList.flatMap Text.escapeChar) + 4 := by
  have hq : (list [str s]).plainText =
      String.ofList ('[' :: '"' :: s.toList.flatMap Text.escapeChar ++ ['"', ']']) := by
    simp [plainText, text, write, writeItems, Text.quoted]
  rw [hq, String.utf8ByteSize_ofList, String.utf8Len_append]
  have he : String.utf8Len ['"', ']'] = 2 := rfl
  have hl : '['.utf8Size = 1 ∧ '"'.utf8Size = 1 := ⟨rfl, rfl⟩
  rw [String.utf8Len_cons, String.utf8Len_cons, he, hl.1, hl.2]

theorem exceeds_str : (Native.ofUnary "str" .any fun v => .ok (str v.plainText)).Exceeds := by
  refine ⟨[list [str longest]], _, rfl, ?_, fun _ => rfl, ?_⟩
  · exact List.forall_mem_singleton.2 (.list (by decide) (by simp [within_longest]))
  · have ha : Text.escapeChar 'a' = ['a'] := by decide
    have hl : longest.toList.flatMap Text.escapeChar = longest.toList := by
      rw [longest, String.toList_ofList, List.flatMap_replicate, ha, List.flatten_replicate_singleton]
    rw [size, utf8ByteSize_plainText, hl, String.utf8Len_toList, utf8ByteSize_longest]
    omega

theorem keepsLimit_picker (name : String) (side : Ordering) : (picker name side).KeepsLimit :=
  fun call _ ha => gives_picker (fun v hv => (ha v hv).size_le) name side call

theorem keepsLimit_or_exceeds : ∀ f ∈ table,
    f.name ∉ ["upper", "lower", "join", "split", "str"] ∧ f.KeepsLimit ∨
      f.name ∈ ["upper", "lower", "join", "split", "str"] ∧ f.Exceeds := by
  simp only [table, List.forall_mem_cons]
  refine ⟨.inl ⟨by decide, .ofUnary gives_length⟩, .inr ⟨by decide, exceeds_upper⟩,
    .inr ⟨by decide, exceeds_lower⟩, .inl ⟨by decide, ?trim⟩, .inr ⟨by decide, exceeds_join⟩,
    .inr ⟨by decide, exceeds_split⟩, .inl ⟨by decide, .ofBinary fun _ => gives_contains⟩,
    .inl ⟨by decide, ?filter⟩, .inl ⟨by decide, ?map⟩, .inl ⟨by decide, .ofBinary gives_all⟩,
    .inl ⟨by decide, .ofBinary gives_any⟩, .inl ⟨by decide, .ofUnary gives_sum⟩,
    .inl ⟨by decide, keepsLimit_picker _ _⟩, .inl ⟨by decide, keepsLimit_picker _ _⟩,
    .inr ⟨by decide, exceeds_str⟩, .inl ⟨by decide, .ofUnary gives_toInt⟩,
    .inl ⟨by decide, ?range⟩, .inl ⟨by decide, .ofUnary gives_abs⟩, by simp⟩
  case trim => exact Native.keepsLimit_ofUnary fun v hv => size_trim hv
  case filter => exact Native.keepsLimit_ofBinary fun call v w hv => size_filter hv call w
  case map => exact Native.keepsLimit_ofBinary fun call v w hv => size_map hv call w
  case range => exact Native.keepsLimit_ofBinary fun _ v w _ => size_range v w

end Builtin

namespace Library
open Value

section Kept
variable {n : Nat} {v : Value} (h : v.Within n)
include h

theorem size_reverseItems : Gives (fun v => v.size ≤ n) (reverseItems v) :=
  (gives_asList h.length_le).bind fun vs hvs => .ok (by simpa [size] using hvs)

theorem size_reverseText : Gives (fun v => v.size ≤ n) (reverseText v) := by
  refine (gives_asString h).bind fun s hs => .ok ?_
  rwa [size, String.utf8ByteSize_ofList, String.utf8Len_reverse, String.utf8Len_toList]

end Kept

theorem utf8ByteSize_join_replicate (n : Nat) (s : String) :
    (String.join (List.replicate n s)).utf8ByteSize = s.utf8ByteSize * n := by
  rw [← String.utf8Len_toList, String.toList_join, List.flatMap_replicate,
    Text.utf8Len_flatten_replicate, String.utf8Len_toList, Nat.mul_comm]

theorem size_repeatText (v w : Value) :
    Gives (fun v => v.size ≤ maxGenerated) (repeatText v w) := by
  refine .read fun s => .read fun k => ?_
  dsimp only
  split
  · exact .error _
  split
  · exact .error _
  next hk =>
    split
    · exact .ok maxGenerated.zero_le
    · exact .ok (by rw [size, utf8ByteSize_join_replicate]; exact not_lt.1 hk)

theorem exceeds_recase (name : String) (separator : Char) :
    (Native.ofUnary name .string (recase name separator)).Exceeds := by
  refine Native.exceeds_ofText 'Ⱥ' (Unicode.lowerChar 'Ⱥ')
    (g := fun cs => Text.join [separator] (Text.caseWords cs)) (fun _ => rfl) (fun n => ?_) rfl
    (by decide)
  have hc : Text.isWordSeparator 'Ⱥ' = false ∧
      (Unicode.isLowercase 'Ⱥ' || Char.isDigit 'Ⱥ') = false := by decide
  have hn : Unicode.lowerChar 'Ⱥ' ≠ [] := by decide
  rw [Text.caseWords, Text.caseWordsFrom_of_joined fun c h => List.eq_of_mem_replicate h ▸ hc,
    List.flatMap_replicate]
  simp [Text.closeWord, Text.join, hn]

theorem concat_pair (call : Call) (vs ws : List Value) :
    concat.run call [list vs, list ws] = .ok (list (vs ++ ws)) := by
  simp [concat, asList]

theorem exceeds_concat : concat.Exceeds := by
  have hf : (bool false).Within maxGenerated := .bool false
  refine ⟨[list (List.replicate maxGenerated (bool false)), list [bool false]], _, rfl, ?_,
    fun call => concat_pair call _ _, ?_⟩
  · have hs : (list [bool false]).Within maxGenerated := .list (by decide) (by simp [hf])
    exact List.forall_mem_cons.2 ⟨hf.replicate, List.forall_mem_singleton.2 hs⟩
  · simp [size]

theorem keepsLimit_or_exceeds : ∀ p ∈ Entry.functions tree,
    p.1 ∉ ["list.concat", "strings.case.kebab", "strings.case.snake"] ∧ p.2.KeepsLimit ∨
      p.1 ∈ ["list.concat", "strings.case.kebab", "strings.case.snake"] ∧ p.2.Exceeds := by
  simp only [Entry.functions, tree, Entry.functionsIn, Entry.functionsOf, List.append_nil,
    List.cons_append, List.nil_append, List.forall_mem_cons]
  refine ⟨.inr ⟨by decide, exceeds_concat⟩, .inl ⟨by decide, ?first⟩, .inl ⟨by decide, ?last⟩,
    .inl ⟨by decide, ?reverse⟩, .inl ⟨by decide, ?clamp⟩,
    .inl ⟨by decide, .ofBinary fun _ => gives_pow⟩, .inr ⟨by decide, exceeds_recase _ _⟩,
    .inr ⟨by decide, exceeds_recase _ _⟩, .inl ⟨by decide, .ofBinary fun _ => gives_hasPrefix⟩,
    .inl ⟨by decide, ?again⟩, .inl ⟨by decide, ?backwards⟩, by simp⟩
  case first => exact Native.keepsLimit_ofUnary fun v hv => gives_firstItem hv.items
  case last => exact Native.keepsLimit_ofUnary fun v hv => gives_lastItem hv.items
  case reverse => exact Native.keepsLimit_ofUnary fun v hv => size_reverseItems hv
  case clamp => exact fun call args _ => (gives_clamp call args).imp fun _ => Scalar.size_le
  case again => exact Native.keepsLimit_ofBinary fun _ v w _ => size_repeatText v w
  case backwards => exact Native.keepsLimit_ofUnary fun v hv => size_reverseText hv

end Library

open Evaluator

/-- What a call of the function makes of arguments within the limit, in any document and at any
depth, is not longer than the limit. -/
def Func.KeepsLimit (f : Func) : Prop :=
  ∀ (d : Document) (n : Nat) (args : List Value), (∀ v ∈ args, v.Within maxGenerated) →
    Gives (fun v => v.size ≤ maxGenerated) ((reach d n).call f args)

theorem Evaluator.exists_call (d : Document) (n : Nat) :
    ∃ lower, (reach d n).call = call d lower := by
  cases n with
  | zero => exact ⟨none, rfl⟩
  | succ n => exact ⟨some (reach d n), rfl⟩

namespace Native
variable {f : Func} {g : Native} {name : String}

theorem KeepsLimit.gives (h : g.KeepsLimit) {args : List Value}
    (ha : ∀ v ∈ args, v.Within maxGenerated) (lower : Option Reach) (name : String) :
    Gives (fun v => v.size ≤ maxGenerated) (callNative lower name g args) := by
  unfold callNative
  split
  · cases lower with
    | none => exact .error _
    | some r => exact h r.call args ha
  · exact .error _

theorem Exceeds.not_keepsLimit (h : g.Exceeds)
    (hc : ∀ d lower args, call d lower f args = callNative lower name g args) :
    ¬ f.KeepsLimit := by
  obtain ⟨args, v, hn, ha, hv, hs⟩ := h
  intro hk
  refine absurd (hk ⟨[]⟩ 1 args ha v ?_) (not_le.2 hs)
  change call ⟨[]⟩ (some (reach ⟨[]⟩ 0)) f args = .ok v
  rw [hc, callNative, if_pos hn]
  exact hv _

theorem keepsLimit_iff_not_mem {exceeding : List String}
    (hc : ∀ d lower args, call d lower f args = callNative lower name g args)
    (h : name ∉ exceeding ∧ g.KeepsLimit ∨ name ∈ exceeding ∧ g.Exceeds) :
    f.KeepsLimit ↔ name ∉ exceeding := by
  rcases h with ⟨hn, hk⟩ | ⟨hn, he⟩
  · refine iff_of_true (fun d n args ha => ?_) hn
    obtain ⟨lower, hl⟩ := exists_call d n
    rw [hl, hc]
    exact hk.gives ha lower name
  · exact iff_of_false (he.not_keepsLimit hc) (not_not.2 hn)

end Native

namespace Evaluator
open Value

theorem keepsLimit_of_error {f : Func}
    (h : ∀ d lower args, ∃ e, call d lower f args = .error e) : f.KeepsLimit := by
  intro d n args _
  obtain ⟨lower, hl⟩ := exists_call d n
  obtain ⟨e, he⟩ := h d lower args
  rw [hl, he]
  exact .error e

theorem keepsLimit_builtin (name : String) :
    (Func.builtin name).KeepsLimit ↔ name ∉ ["upper", "lower", "join", "split", "str"] := by
  cases hf : Builtin.find? name with
  | none =>
    have hs : ∀ n ∈ ["upper", "lower", "join", "split", "str"], (Builtin.find? n).isSome := by
      decide
    refine iff_of_true (keepsLimit_of_error fun d lower args => ⟨.unknownName name, ?_⟩)
      fun hn => by simpa [hf] using hs name hn
    rw [call, hf]
  | some g =>
    have hg := Builtin.keepsLimit_or_exceeds g (Builtin.mem_table hf)
    rw [Builtin.name_of_find? hf] at hg
    exact Native.keepsLimit_iff_not_mem (fun d lower args => by rw [call, hf]) hg

theorem keepsLimit_library (path : String) :
    (Func.library path).KeepsLimit ↔
      path ∉ ["list.concat", "strings.case.kebab", "strings.case.snake"] := by
  by_cases hf : ∃ g, Library.find? path = some (.function g)
  · obtain ⟨g, hf⟩ := hf
    have hg := Library.keepsLimit_or_exceeds (path, g) (Library.mem_functions hf)
    exact Native.keepsLimit_iff_not_mem (fun d lower args => by rw [call, hf]) hg
  · have hs : ∀ p ∈ ["list.concat", "strings.case.kebab", "strings.case.snake"],
        ∃ g, Library.find? p = some (.function g) := by
      simp only [List.forall_mem_cons]
      exact ⟨⟨_, rfl⟩, ⟨_, rfl⟩, ⟨_, rfl⟩, by simp⟩
    refine iff_of_true (keepsLimit_of_error fun d lower args => ⟨.unknownName path, ?_⟩)
      fun hp => hf (hs path hp)
    rw [call]
    split
    next g hg => exact absurd ⟨g, hg⟩ hf
    · rfl

/-- Eight functions make something longer than the limit from arguments within it; no other builtin
and no other function of the library does. -/
theorem keepsLimit_iff (name : String) :
    ((Func.builtin name).KeepsLimit ↔ name ∉ ["upper", "lower", "join", "split", "str"]) ∧
    ((Func.library name).KeepsLimit ↔
      name ∉ ["list.concat", "strings.case.kebab", "strings.case.snake"]) :=
  ⟨keepsLimit_builtin name, keepsLimit_library name⟩

/-- An item more than the longest range has. -/
theorem keepsLimit_iff_concat :
    ∃ vs : List Value, (list vs).Within maxGenerated ∧ (list [int 0]).Within maxGenerated ∧
      (reach ⟨[]⟩ 1).call (.builtin "range") [int 0, int 0x100000] = .ok (list vs) ∧
      (reach ⟨[]⟩ 1).call (.library "list.concat") [list vs, list [int 0]] =
        .ok (list (vs ++ [int 0])) ∧
      (vs ++ [int 0]).length = maxGenerated + 1 := by
  obtain ⟨vs, hr, hn, hv⟩ := Builtin.range_zero (b := 0x100000) (n := maxGenerated) rfl le_rfl
  have h1 : (reach ⟨[]⟩ 1).call = call ⟨[]⟩ (some (reach ⟨[]⟩ 0)) := rfl
  refine ⟨vs, .list hn.le fun v h => (hv v h).within, .list (by decide) ?_, ?_, ?_, ?_⟩
  · exact List.forall_mem_singleton.2 (.int 0)
  · rw [h1, call_range, hr]
  · rw [h1, call_library (f := Library.concat) rfl rfl, Library.concat_pair]
  · rw [List.length_append, hn, List.length_singleton]

end Evaluator

end Tether
