import Tether.Value.Text

/-! The text of a value is made up of the texts of what is in it: what stands before a value has no
part in how it is written (`write_append`). -/
namespace Tether.Value

mutual

theorem write_append (out lead : List Char) :
    (v : Value) → v.write (out ++ lead) = v.write out ++ lead
  | .int n => by simp [write]
  | .float x => by simp [write]
  | .str s => by simp [write]
  | .bool b => by simp [write]
  | .list vs => congrArg (']' :: ·) (writeItems_append true ('[' :: out) lead vs)
  | .record fs => congrArg ('\x7d' :: ·) (writeFields_append true ('\x7b' :: out) lead fs)
  | .func f => by simp [write]

theorem writeItems_append (isFirst : Bool) (out lead : List Char) :
    (vs : List Value) → writeItems isFirst (out ++ lead) vs = writeItems isFirst out vs ++ lead
  | [] => rfl
  | v :: vs => by
    cases isFirst
    all_goals
      rw [writeItems, writeItems, ← writeItems_append, ← write_append]
      rfl

theorem writeFields_append (isFirst : Bool) (out lead : List Char) :
    (fs : List (String × Value)) →
      writeFields isFirst (out ++ lead) fs = writeFields isFirst out fs ++ lead
  | [] => rfl
  | (name, v) :: fs => by
    cases isFirst <;> simp [writeFields, ← writeFields_append, ← write_append]

end

theorem toList_text (v : Value) : v.text.toList = (v.write []).reverse := by
  simp [text]

theorem write_eq (v : Value) (out : List Char) : v.write out = v.text.toList.reverse ++ out := by
  rw [toList_text, List.reverse_reverse, ← write_append, List.nil_append]

theorem writeItems_eq (vs : List Value) (out : List Char) :
    writeItems false out vs = (vs.flatMap fun v => ',' :: ' ' :: v.text.toList).reverse ++ out := by
  induction vs generalizing out with
  | nil => rfl
  | cons v vs ih => simp [writeItems, ih, write_eq]

theorem toList_text_list (v : Value) (vs : List Value) :
    (list (v :: vs)).text.toList =
      '[' :: (v.text.toList ++ ((vs.flatMap fun w => ',' :: ' ' :: w.text.toList) ++ [']'])) := by
  rw [toList_text, write, writeItems, writeItems_eq, write_eq]
  simp

end Tether.Value
