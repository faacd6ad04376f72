import Mathlib

/-! Integers as floating-point numbers: they are equal as such when the nearest integers with 53
significant bits are (`ofInt_beq`). -/
namespace Tether.Number
open Float.Model Float.Model.UnpackedFloat

/-- `n / 2 ^ k`, rounded to the nearest integer and halfway to the even one. -/
def roundEven (n k : Nat) : Nat :=
  let rest := 2 * (n % 2 ^ k)
  n / 2 ^ k + if 2 ^ k < rest then 1 else if rest = 2 ^ k then n / 2 ^ k % 2 else 0

def excess (n : Nat) : Nat := n.log2 - 52

def nearestNat (n : Nat) : Nat := roundEven n (excess n) * 2 ^ excess n

def nearest : Int → Int
  | .ofNat n => nearestNat n
  | .negSucc n => -nearestNat (n + 1)

theorem roundEven_zero (n : Nat) : roundEven n 0 = n := by
  simp [roundEven, Nat.mod_one]

theorem roundEven_mul (n k j : Nat) : roundEven (n * 2 ^ j) (k + j) = roundEven n k := by
  have hj : 0 < 2 ^ j := Nat.two_pow_pos j
  have hr : 2 * (n * 2 ^ j % 2 ^ (k + j)) = 2 * (n % 2 ^ k) * 2 ^ j := by
    rw [pow_add, Nat.mul_mod_mul_right, mul_assoc]
  have hq : n * 2 ^ j / 2 ^ (k + j) = n / 2 ^ k := by
    rw [pow_add, Nat.mul_div_mul_right _ _ hj]
  simp only [roundEven, hr, hq]
  simp [pow_add, hj]

theorem roundEven_bounds (n k : Nat) :
    n / 2 ^ k ≤ roundEven n k ∧ roundEven n k ≤ n / 2 ^ k + 1 := by
  simp only [roundEven]
  split_ifs <;> omega

theorem excess_of_lt {n : Nat} (h : n < 2 ^ 53) : excess n = 0 := by
  by_cases hz : n = 0
  · simp [hz, excess]
  · have := (Nat.log2_lt hz).2 h
    rw [excess]
    omega

theorem nearestNat_of_lt {n : Nat} (h : n < 2 ^ 53) : nearestNat n = n := by
  rw [nearestNat, excess_of_lt h, roundEven_zero, pow_zero, mul_one]

theorem two_pow_le_div {n : Nat} {j k : Nat} (hn : n ≠ 0) (h : n.log2 = j + k) :
    2 ^ j ≤ n / 2 ^ k := by
  rw [Nat.le_div_iff_mul_le (Nat.two_pow_pos k), ← pow_add, ← h]
  exact Nat.log2_self_le hn

theorem div_lt_two_pow {n : Nat} {j k : Nat} (h : n.log2 = j + k) : n / 2 ^ k < 2 ^ (j + 1) := by
  rw [Nat.div_lt_iff_lt_mul (Nat.two_pow_pos k), ← pow_add]
  have : j + 1 + k = n.log2 + 1 := by omega
  rw [this]
  exact Nat.lt_log2_self

theorem le_nearestNat {n : Nat} (h : 2 ^ 53 ≤ n) : 2 ^ 53 ≤ nearestNat n := by
  have hn : n ≠ 0 := by omega
  have hl : 53 ≤ n.log2 := (Nat.le_log2 hn).2 h
  have hq : 2 ^ 52 ≤ n / 2 ^ excess n := two_pow_le_div hn (by rw [excess]; omega)
  calc 2 ^ 53 = 2 ^ 52 * 2 ^ 1 := by norm_num
    _ ≤ roundEven n (excess n) * 2 ^ excess n :=
      Nat.mul_le_mul (hq.trans (roundEven_bounds n _).1)
        (Nat.pow_le_pow_right two_pos (by rw [excess]; omega))

theorem nearest_of_lt {n : Int} (h : n.natAbs < 2 ^ 53) : nearest n = n := by
  cases n with
  | ofNat n => exact congrArg Int.ofNat (nearestNat_of_lt h)
  | negSucc n => exact congrArg (fun m : Nat => -(m : Int)) (nearestNat_of_lt h)

theorem natAbs_nearest (n : Int) : (nearest n).natAbs = nearestNat n.natAbs := by
  cases n with
  | ofNat n => rfl
  | negSucc n => exact (Int.natAbs_neg _).trans rfl

/-- Below `2 ^ 53` nothing is rounded, and nothing is rounded to there. -/
theorem nearest_inj {m n : Int} (h : m.natAbs < 2 ^ 53) : nearest m = nearest n ↔ m = n := by
  refine ⟨fun hm => ?_, fun hm => by rw [hm]⟩
  rw [nearest_of_lt h] at hm
  by_cases hn : n.natAbs < 2 ^ 53
  · rw [hm, nearest_of_lt hn]
  · have := le_nearestNat (Nat.le_of_not_lt hn)
    rw [← natAbs_nearest, ← hm] at this
    omega

/-- The mantissa `n` after `k` shifts, with what the two bits below it tell of the rest. -/
structure Shifted (em : ExtendedMantissa) (n k : Nat) : Prop where
  mantissa : em.mantissa = n / 2 ^ k
  roundBit : em.roundBit = decide (2 ^ k ≤ 2 * (n % 2 ^ k))
  stickyBit : em.stickyBit = decide (n % 2 ^ k ≠ 0 ∧ 2 * (n % 2 ^ k) ≠ 2 ^ k)

theorem Shifted.shiftRightOne {em : ExtendedMantissa} {n k : Nat} (h : Shifted em n k) :
    Shifted em.shiftRightOne n (k + 1) := by
  have hp : 0 < 2 ^ k := Nat.two_pow_pos k
  have hr : n % 2 ^ (k + 1) = 2 ^ k * (n / 2 ^ k % 2) + n % 2 ^ k := by
    rw [pow_succ, Nat.mod_mul, add_comm]
  have hlt : n % 2 ^ k < 2 ^ k := Nat.mod_lt n hp
  refine ⟨?_, ?_, ?_⟩
  · rw [ExtendedMantissa.shiftRightOne, h.mantissa, Nat.div_div_eq_div_mul, pow_succ]
  · rw [ExtendedMantissa.shiftRightOne, h.mantissa, hr, pow_succ]
    rcases Nat.mod_two_eq_zero_or_one (n / 2 ^ k) with hb | hb <;> simp [hb] <;> omega
  · rw [ExtendedMantissa.shiftRightOne, h.roundBit, h.stickyBit, hr, pow_succ]
    rcases Nat.mod_two_eq_zero_or_one (n / 2 ^ k) with hb | hb <;>
      simp only [hb] <;> rw [← Bool.decide_or] <;> congr 1 <;> simp <;> omega

theorem shifted_repeat (n k : Nat) :
    Shifted (k.repeat ExtendedMantissa.shiftRightOne ⟨n, false, false⟩) n k := by
  induction k with
  | zero =>
    refine ⟨?_, ?_, ?_⟩
    · simp [Nat.repeat]
    · simp [Nat.repeat, Nat.mod_one]
    · simp [Nat.repeat, Nat.mod_one]
  | succ k ih => exact ih.shiftRightOne

theorem Shifted.roundedMantissa {em : ExtendedMantissa} {n k : Nat} (h : Shifted em n k) :
    em.roundedMantissa = roundEven n k := by
  obtain ⟨m, roundBit, stickyBit⟩ := em
  obtain ⟨hm, hr, hs⟩ := h
  have hp : 0 < 2 ^ k := Nat.two_pow_pos k
  dsimp only at hm hr hs
  rw [roundEven, ← hm]
  cases roundBit <;> cases stickyBit <;>
    simp [ExtendedMantissa.roundedMantissa, ExtendedMantissa.accuracy,
      Accuracy.roundToNearestEven] at hr hs ⊢ <;> split_ifs <;> omega

/-- A finite number in canonical form that is whole. -/
inductive Denotes : UnpackedFloat → Int → Prop
  | zero (s : Sign) : Denotes (.zero s) 0
  | finite {s : Sign} {m k : Nat} {e v : Int} (hp : 0 < m) (hm : m.log2 = 52) (hk : k ≤ 1023)
      (he : e = k - 52) (hv : s.apply (m * 2 ^ k : Nat) = v * 2 ^ 52) :
      Denotes (.finite s m e hp) v

theorem targetExponent_eq {n k j : Nat} {e : Int} (hn : n.log2 = 52 + k) (he : e + k = j - 52) :
    Format.binary64.targetExponent (totalExponent n e) = j - 52 := by
  simp only [Format.targetExponent, totalExponent, Format.mantissaBits, Format.minExponent]
  omega

theorem shift_eq {n k j : Nat} {e : Int} (hn : n.log2 = 52 + k) (he : e + k = j - 52) :
    shiftToTargetExponent Format.binary64 n e .exact =
      (k.repeat ExtendedMantissa.shiftRightOne ⟨n, false, false⟩, (j - 52 : Int)) := by
  have hk : ((j : Int) - 52 - e).toNat = k := by omega
  rw [shiftToTargetExponent, targetExponent_eq hn he]
  simp only [shiftToExponent, hk, he]
  rfl

theorem denotes_round (s : Sign) {n k j : Nat} {e v : Int} (hn : n.log2 = 52 + k)
    (he : e + k = j - 52) (hj : j < 1023)
    (hv : s.apply (roundEven n k * 2 ^ j : Nat) = v * 2 ^ 52) :
    Denotes (roundWithAccuracy Format.binary64 s n e .exact) v := by
  have hz : n ≠ 0 := by
    rintro rfl
    simp at hn
    omega
  have hlo : 2 ^ 52 ≤ roundEven n k := (two_pow_le_div hz hn).trans (roundEven_bounds n k).1
  have hhi : roundEven n k ≤ 2 ^ 53 := (roundEven_bounds n k).2.trans (div_lt_two_pow hn)
  have hr := (shifted_repeat n k).roundedMantissa
  rw [roundWithAccuracy, shift_eq hn he]
  dsimp only
  rw [hr]
  rcases hhi.lt_or_eq with hlt | heq
  · have hl : (roundEven n k).log2 = 52 + 0 := (Nat.log2_eq_iff (by omega)).2 ⟨hlo, hlt⟩
    have hs := shift_eq hl (j := j) (e := j - 52) (by simp)
    simp only [hs, Nat.repeat]
    rw [dif_neg (by omega)]
    exact .finite _ hl (by omega) rfl hv
  · -- The carry makes the mantissa one bit longer.
    have hs := shift_eq (Nat.log2_two_pow (n := 53)) (k := 1) (j := j + 1) (e := j - 52)
      (by push_cast; ring)
    have hm := (shifted_repeat (2 ^ 53) 1).mantissa
    rw [heq] at hv ⊢
    simp only [hs, hm]
    rw [dif_neg (by decide)]
    refine .finite _ (by decide) (by omega) rfl ?_
    rw [← hv, pow_succ 2 j]
    congr 1
    push_cast
    ring

theorem append_mantissa {m : Nat} (hm : m.log2 = 52) : (1#1 ++ BitVec.ofNat 52 m).toNat = m := by
  have hz : m ≠ 0 := by
    rintro rfl
    cases hm
  obtain ⟨hlo, hhi⟩ := (Nat.log2_eq_iff hz).1 hm
  have hr : (BitVec.ofNat 52 m).toNat = m % 2 ^ 52 := BitVec.toNat_ofNat m 52
  rw [BitVec.toNat_append, ← Nat.shiftLeft_add_eq_or_of_lt (BitVec.ofNat 52 m).isLt, hr]
  simp only [BitVec.toNat_ofNat, Nat.shiftLeft_eq]
  omega

theorem pack_finite {s : Sign} {m k : Nat} (hp : 0 < m) (hm : m.log2 = 52) (hk : k ≤ 1023) :
    UnpackedFloat.pack Format.binary64 (.finite s m (k - 52) hp) =
      packComponents Format.binary64 s (BitVec.ofNat 11 (k + 1023)) (BitVec.ofNat 52 m) := by
  have hb : ((k : Int) - 52 + (Format.binary64.exponentBias : Nat) + (52 : Nat)).toNat =
      k + 1023 := by
    simp only [Format.exponentBias]
    omega
  rw [UnpackedFloat.pack]
  simp only [hb]
  rw [if_neg (by omega), if_pos (by rw [hm]; rfl)]

theorem unpack_pack {f : UnpackedFloat} {v : Int} (h : Denotes f v) :
    (Float.Model.pack f).unpack = f := by
  cases h with
  | zero s => cases s <;> rfl
  | @finite s m k e v hp hm hk he hv =>
    subst he
    have he : (BitVec.ofNat 11 (k + 1023)).toNat = k + 1023 := by
      rw [BitVec.toNat_ofNat]
      omega
    have hi : BitVec.ofNat 11 (k + 1023) ≠ -1#11 := by
      intro h
      have hn : k + 1023 = 2047 := he.symm.trans (congrArg BitVec.toNat h)
      omega
    have hz : BitVec.ofNat 11 (k + 1023) ≠ 0#11 := by
      intro h
      have hn : k + 1023 = 0 := he.symm.trans (congrArg BitVec.toNat h)
      omega
    have hx : ((k + 1023 : Nat) : Int) - ((Format.binary64.exponentBias : Nat) + (52 : Nat)) =
        k - 52 := by
      simp only [Format.exponentBias]
      omega
    change UnpackedFloat.unpack Format.binary64 (UnpackedFloat.pack Format.binary64 _) = _
    rw [pack_finite hp hm hk, UnpackedFloat.unpack]
    simp only [unpackMantissa_packComponents, unpackExponent_packComponents,
      unpackSign_packComponents, Sign.ofBitVec_toBitVec, if_neg hi, if_neg hz, he,
      append_mantissa hm, hx]

theorem denotes_neg {f : UnpackedFloat} {v : Int} (h : Denotes f v) : Denotes f.neg (-v) := by
  cases h with
  | zero s => exact .zero _
  | @finite s m k e v hp hm hk he hv =>
    refine .finite hp hm hk he ?_
    rw [neg_mul, ← hv]
    cases s with
    | negative => exact (neg_neg _).symm
    | positive => rfl

theorem log2_mul_two_pow {n : Nat} (hn : n ≠ 0) (k : Nat) :
    (n * 2 ^ k).log2 = n.log2 + k := by
  induction k with
  | zero => simp
  | succ k ih =>
    have hm : n * 2 ^ (k + 1) = 2 * (n * 2 ^ k) := by ring
    rw [hm, Nat.log2_two_mul (by positivity), ih, add_assoc]

theorem eq_of_mul_two_pow {m n j k : Nat} (hm : m.log2 = 52) (hn : n.log2 = 52)
    (h : m * 2 ^ j = n * 2 ^ k) : m = n ∧ j = k := by
  have hz {i : Nat} (hi : i.log2 = 52) : i ≠ 0 := by
    rintro rfl
    cases hi
  have hjk : j = k := by
    have hl := congrArg Nat.log2 h
    rw [log2_mul_two_pow (hz hm), log2_mul_two_pow (hz hn)] at hl
    omega
  subst hjk
  exact ⟨Nat.eq_of_mul_eq_mul_right (Nat.two_pow_pos j) h, rfl⟩

theorem apply_inj {s t : Sign} {m n : Nat} (hm : 0 < m) :
    s.apply m = t.apply n ↔ s = t ∧ m = n := by
  cases s <;> cases t <;> simp [Sign.apply] <;> omega

theorem apply_ne_zero (s : Sign) {n : Nat} (hn : 0 < n) : s.apply n ≠ 0 := by
  cases s <;> simpa [Sign.apply] using hn.ne'

theorem Denotes.ne_zero {s : Sign} {m : Nat} {e v : Int} {hp : 0 < m}
    (h : Denotes (.finite s m e hp) v) : v ≠ 0 := by
  cases h with
  | finite hp hm hk he hv =>
    rintro rfl
    rw [zero_mul] at hv
    exact apply_ne_zero s (by positivity) hv

theorem Denotes.finite_inj {s t : Sign} {m n : Nat} {e f v w : Int} {hp : 0 < m} {hq : 0 < n}
    (hv : Denotes (.finite s m e hp) v) (hw : Denotes (.finite t n f hq) w) :
    v = w ↔ s = t ∧ m = n ∧ e = f := by
  cases hv with
  | @finite _ _ j _ _ _ hm hj he hv =>
    cases hw with
    | @finite _ _ k _ _ _ hn hk hf hw =>
      calc v = w ↔ s.apply (m * 2 ^ j : Nat) = t.apply (n * 2 ^ k : Nat) := by
            rw [hv, hw]
            omega
        _ ↔ s = t ∧ m * 2 ^ j = n * 2 ^ k := apply_inj (by positivity)
        _ ↔ s = t ∧ m = n ∧ e = f := by
            refine and_congr_right fun _ => ⟨fun h => ?_, ?_⟩
            · obtain ⟨rfl, rfl⟩ := eq_of_mul_two_pow hm hn h
              exact ⟨rfl, by rw [he, hf]⟩
            · rintro ⟨rfl, h⟩
              have : j = k := by omega
              rw [this]

theorem denotes_beq {f g : UnpackedFloat} {v w : Int} (hf : Denotes f v) (hg : Denotes g w) :
    f.beq g = decide (v = w) := by
  rw [Bool.eq_iff_iff, beq_iff_ne_notANumber_and_eq, decide_eq_true_eq]
  cases f with
  | infinity s => cases hf
  | notANumber => cases hf
  | zero s =>
    cases hf
    cases g with
    | infinity t => cases hg
    | notANumber => cases hg
    | zero t =>
      cases hg
      cases s <;> cases t <;> simp
    | finite t n e hq => simp [hg.ne_zero.symm]
  | finite s m e hp =>
    cases g with
    | infinity t => cases hg
    | notANumber => cases hg
    | zero t =>
      have := hf.ne_zero
      cases hg
      simp [this]
    | finite t n e' hq =>
      simp only [ne_eq, reduceCtorEq, not_false_eq_true, true_and, false_and, or_false,
        finite.injEq]
      exact (hf.finite_inj hg).symm

theorem denotes_round_of_lt {n : Nat} (hz : n ≠ 0) (h : n < 2 ^ 53) :
    Denotes (UnpackedFloat.round Format.binary64 .positive n 0) n := by
  have hl : n.log2 < 53 := (Nat.log2_lt hz).2 h
  have ht : Format.binary64.targetExponent (totalExponent n 0) = n.log2 - 52 := by
    simp only [Format.targetExponent, totalExponent, Format.mantissaBits, Format.minExponent]
    omega
  have hk : (0 - ((n.log2 : Int) - 52)).toNat = 52 - n.log2 := by omega
  rw [UnpackedFloat.round, ht, decreaseExponent, hk, Nat.shiftLeft_eq]
  refine denotes_round _ (k := 0) (j := n.log2) ?_ (by omega) (by omega) ?_
  · rw [log2_mul_two_pow hz]
    omega
  · rw [roundEven_zero, mul_assoc, ← pow_add, Nat.sub_add_cancel (by omega)]
    simp [Sign.apply]

theorem denotes_toFloat {n : Nat} (h : n < 2 ^ 53) :
    Denotes n.toUInt64.toFloat.toModel.unpack n := by
  have hn : n.toUInt64.toNat = n := by
    simp
    omega
  have hd : Denotes (UnpackedFloat.ofNat Format.binary64 n) n := by
    rw [UnpackedFloat.ofNat, UnpackedFloat.ofInt, UnpackedFloat.normalize]
    by_cases hz : n = 0
    · subst hz
      exact .zero _
    · have hc : compare (n : Int) 0 = .gt := compare_gt_iff_gt.2 (by omega)
      rw [hc]
      exact denotes_round_of_lt hz h
  change Denotes (Float.Model.pack (UnpackedFloat.ofNat Format.binary64 n.toUInt64.toNat)).unpack n
  rwa [hn, unpack_pack hd]

theorem denotes_mul_one {f : UnpackedFloat} {v : Int} (h : Denotes f v) (hv : v.natAbs < 2 ^ 53) :
    Denotes (UnpackedFloat.mul Format.binary64 f (.finite .positive (2 ^ 52) (-52) (by decide)))
      v := by
  cases h with
  | zero s => exact .zero _
  | @finite s m k e v hp hm hk he hw =>
    have hs : s * .positive = s := by cases s <;> rfl
    have ha : m * 2 ^ k = v.natAbs * 2 ^ 52 := by
      have hw := congrArg Int.natAbs hw
      cases s <;> simpa [Sign.apply, Int.natAbs_mul] using hw
    have hk : k < 1023 := by
      have hm : 2 ^ 52 ≤ m := (Nat.le_log2 hp.ne').1 hm.ge
      by_contra hk
      have hk : 2 ^ 53 ≤ 2 ^ k := Nat.pow_le_pow_right two_pos (by omega)
      nlinarith
    rw [UnpackedFloat.mul, hs]
    refine denotes_round s (k := 52) (j := k) ?_ (by omega) hk ?_
    · rw [log2_mul_two_pow hp.ne', hm]
    · rwa [← Nat.zero_add 52, roundEven_mul, roundEven_zero]

theorem denotes_ofScientific {n : Nat} (h : 2 ^ 53 ≤ n) (hn : n < 2 ^ 64) :
    Denotes (UnpackedFloat.ofScientific Format.binary64 n 0) (nearestNat n) := by
  have hz : n ≠ 0 := by omega
  have hl : 53 ≤ n.log2 := (Nat.le_log2 hz).2 h
  have hu : n.log2 < 64 := (Nat.log2_lt hz).2 hn
  have hm : n <<< Format.binary64.mantissaBits * 10 ^ (0 : Int).toNat = n * 2 ^ 53 := by
    rw [Nat.shiftLeft_eq]
    exact mul_one _
  have hk : n.log2 + 1 = excess n + 53 := by
    rw [excess]
    omega
  rw [UnpackedFloat.ofScientific, dif_neg hz, if_neg (by decide), if_neg (by simp),
    if_pos le_rfl, UnpackedFloat.mul]
  simp only [hm]
  refine denotes_round _ (k := n.log2 + 1) (j := n.log2) ?_ ?_ (by omega) ?_
  · rw [log2_mul_two_pow hz]
    omega
  · simp only [Format.mantissaBits]
    omega
  · rw [hk, roundEven_mul]
    change ((roundEven n (excess n) * 2 ^ n.log2 : Nat) : Int) = _
    rw [nearestNat, show n.log2 = excess n + 52 by omega, pow_add]
    push_cast
    ring

theorem denotes_ofNat {n : Nat} (h : n < 2 ^ 64) :
    Denotes (Float.ofNat n).toModel.unpack (nearestNat n) := by
  by_cases hn : n < 2 ^ 53
  · have hd : Float.ofNat n = n.toUInt64.toFloat * Float.ofBits 0x3FF0000000000000 :=
      dif_pos ⟨hn, by decide⟩
    have hm := denotes_mul_one (denotes_toFloat hn) (by simpa using hn)
    rw [hd, nearestNat_of_lt hn]
    change Denotes (Float.Model.pack (UnpackedFloat.mul Format.binary64 _ _)).unpack n
    rwa [← unpack_pack hm] at hm
  · have hd : Float.ofNat n = .ofModel (Float.Model.ofScientific n 0) := dif_neg (by omega)
    have hs := denotes_ofScientific (Nat.le_of_not_lt hn) h
    rw [hd]
    change Denotes (Float.Model.pack _).unpack _
    rwa [unpack_pack hs]

theorem denotes_ofInt {n : Int} (h : n.natAbs < 2 ^ 64) :
    Denotes (Float.ofInt n).toModel.unpack (nearest n) := by
  cases n with
  | ofNat n => exact denotes_ofNat h
  | negSucc n =>
    have hd := denotes_neg (denotes_ofNat h)
    change Denotes (Float.Model.pack (UnpackedFloat.neg _)).unpack (-nearestNat (n + 1))
    rwa [← unpack_pack hd] at hd

/-- Integers are equal as floating-point numbers when the nearest ones are the same. -/
theorem ofInt_beq {m n : Int} (hm : m.natAbs < 2 ^ 64) (hn : n.natAbs < 2 ^ 64) :
    (Float.ofInt m == Float.ofInt n) = decide (nearest m = nearest n) :=
  denotes_beq (denotes_ofInt hm) (denotes_ofInt hn)

end Tether.Number
