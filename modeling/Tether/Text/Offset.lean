/-! Text addressed by byte offsets of its UTF-8 form. An offset inside a character or past the end
is no position: `splitAt?` refuses it, `floor` and `ceil` move it to a position. -/
namespace Tether.Text

def bytes : List Char → Nat
  | [] => 0
  | c :: cs => c.utf8Size + bytes cs

@[simp] theorem bytes_nil : bytes [] = 0 := rfl
@[simp] theorem bytes_cons (c : Char) (cs : List Char) :
    bytes (c :: cs) = c.utf8Size + bytes cs := rfl

@[simp] theorem bytes_append (a b : List Char) : bytes (a ++ b) = bytes a + bytes b := by
  induction a with
  | nil => simp
  | cons c cs ih => simp [ih, Nat.add_assoc]

def splitAt? : List Char → Nat → Option (List Char × List Char)
  | cs, 0 => some ([], cs)
  | [], _ + 1 => none
  | c :: cs, n + 1 =>
    if c.utf8Size ≤ n + 1 then
      (splitAt? cs (n + 1 - c.utf8Size)).map fun (a, b) => (c :: a, b)
    else none

def isPosition (cs : List Char) (n : Nat) : Bool := (splitAt? cs n).isSome

/-- The last position at or before an offset. -/
def floor : List Char → Nat → Nat
  | [], _ => 0
  | c :: cs, n => if c.utf8Size ≤ n then c.utf8Size + floor cs (n - c.utf8Size) else 0

def ceil : List Char → Nat → Nat
  | [], _ => 0
  | _ :: _, 0 => 0
  | c :: cs, n + 1 => c.utf8Size + ceil cs (n + 1 - c.utf8Size)

/-- The text before and after the last position at or before an offset. -/
def splitFloor : List Char → Nat → List Char × List Char
  | [], _ => ([], [])
  | c :: cs, n =>
    if c.utf8Size ≤ n then
      let (a, b) := splitFloor cs (n - c.utf8Size)
      (c :: a, b)
    else ([], c :: cs)

def slice? (cs : List Char) (start stop : Nat) : Option (List Char) := do
  if stop < start then none
  let (_, b) ← splitAt? cs start
  let (m, _) ← splitAt? b (stop - start)
  some m

def splice? (cs : List Char) (start stop : Nat) (new : List Char) : Option (List Char) := do
  if stop < start then none
  let (a, b) ← splitAt? cs start
  let (_, d) ← splitAt? b (stop - start)
  some (a ++ new ++ d)

def dropEnd (p : Char → Bool) (cs : List Char) : List Char := (cs.reverse.dropWhile p).reverse

def takeEnd (p : Char → Bool) (cs : List Char) : List Char := (cs.reverse.takeWhile p).reverse

theorem dropEnd_append_takeEnd (p : Char → Bool) (cs : List Char) :
    dropEnd p cs ++ takeEnd p cs = cs := by
  simp [dropEnd, takeEnd, ← List.reverse_append]

theorem splitFloor_append (cs : List Char) (n : Nat) :
    (splitFloor cs n).1 ++ (splitFloor cs n).2 = cs := by
  induction cs generalizing n with
  | nil => rfl
  | cons c cs ih => unfold splitFloor; split <;> simp [ih]

theorem bytes_splitFloor (cs : List Char) (n : Nat) : bytes (splitFloor cs n).1 = floor cs n := by
  induction cs generalizing n with
  | nil => rfl
  | cons c cs ih => unfold splitFloor floor; split <;> simp [ih]

theorem append_of_splitAt? {cs a b : List Char} {n : Nat} (h : splitAt? cs n = some (a, b)) :
    cs = a ++ b ∧ bytes a = n := by
  induction cs generalizing n a b with
  | nil => cases n <;> simp_all [splitAt?]
  | cons c cs ih =>
    cases n with
    | zero => simp_all [splitAt?]
    | succ n =>
      unfold splitAt? at h
      split at h
      · next hc =>
        obtain ⟨⟨a', b'⟩, h', e⟩ := Option.map_eq_some_iff.1 h
        obtain ⟨rfl, rfl⟩ := Prod.mk.inj e
        obtain ⟨rfl, hb⟩ := ih h'
        exact ⟨rfl, by simp [hb]; omega⟩
      · cases h

theorem splitAt?_append (a b : List Char) : splitAt? (a ++ b) (bytes a) = some (a, b) := by
  induction a with
  | nil => cases b <;> rfl
  | cons c a ih =>
    have hc := c.utf8Size_pos
    obtain ⟨n, hn⟩ : ∃ n, bytes (c :: a) = n + 1 := ⟨c.utf8Size - 1 + bytes a, by simp; omega⟩
    rw [hn, List.cons_append, splitAt?, if_pos (by simp at hn; omega)]
    rw [show n + 1 - c.utf8Size = bytes a by simp at hn; omega, ih]
    rfl

end Tether.Text
