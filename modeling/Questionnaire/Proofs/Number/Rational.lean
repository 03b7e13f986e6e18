import Questionnaire.Number.Reading
import Questionnaire.Proofs.Number.Nearest
import Mathlib.Algebra.Order.Field.Power
import Mathlib.Algebra.Order.Floor.Semifield
import Mathlib.Data.Rat.Floor

namespace Questionnaire.Number

/-- The rational with a sign and a magnitude. -/
def signed (negative : Bool) (x : ℚ) : ℚ := if negative then -x else x

/-- The integer part, cut toward zero. -/
def truncate (x : ℚ) : ℤ := if 0 ≤ x then ⌊x⌋ else ⌈x⌉

/-- The number cut toward zero after some decimal places. -/
def cut (places : ℕ) (x : ℚ) : ℚ := truncate (x * 10 ^ places) / 10 ^ places

/-- The number that the numeral writes, without its sign. -/
def Numeral.magnitude (n : Numeral) : ℚ := n.coefficient * 10 ^ n.power

/-- The number that the numeral writes. -/
def Numeral.value (n : Numeral) : ℚ := signed n.negative n.magnitude

def Decimal.value (d : Decimal) : ℚ := d.coefficient / 10 ^ d.scale

def Finite64.value (x : Finite64) : ℚ := x.signedUnits / Binary64.one

theorem ten_zpow_eq (k : ℤ) : (10 : ℚ) ^ k = (10 ^ k.toNat : ℕ) / (10 ^ (-k).toNat : ℕ) := by
  push_cast
  rcases Int.le_total 0 k with h | h
  · rw [Int.toNat_of_nonpos (by omega : -k ≤ 0), pow_zero, div_one]
    conv_lhs => rw [← Int.toNat_of_nonneg h]
    rw [zpow_natCast]
  · rw [Int.toNat_of_nonpos h, pow_zero]
    conv_lhs => rw [show k = -((-k).toNat : ℤ) by omega]
    rw [zpow_neg, zpow_natCast, one_div]

theorem signed_mul (b : Bool) (x y : ℚ) : signed b (x * y) = signed b x * y := by
  cases b <;> simp [signed]

theorem signed_div (b : Bool) (x y : ℚ) : signed b (x / y) = signed b x / y := by
  cases b <;> simp [signed, neg_div]

theorem abs_signed {b : Bool} {x : ℚ} (h : 0 ≤ x) : |signed b x| = x := by
  cases b <;> simp [signed, abs_of_nonneg h]

theorem signed_inj {b : Bool} {x y : ℚ} : signed b x = signed b y ↔ x = y := by
  cases b <;> simp [signed]

theorem exists_signed (x : ℚ) : ∃ b y, 0 ≤ y ∧ x = signed b y := by
  rcases le_total 0 x with hx | hx
  · exact ⟨false, x, hx, rfl⟩
  · exact ⟨true, -x, by linarith, by simp [signed]⟩

theorem abs_signed_sub (b : Bool) (x y : ℚ) : |signed b x - signed b y| = |x - y| := by
  cases b
  · rfl
  · rw [signed, signed, if_pos rfl, if_pos rfl, neg_sub_neg, abs_sub_comm]

theorem signed_natCast (b : Bool) (n : ℕ) :
    signed b n = ((if b then -(n : ℤ) else (n : ℤ) : ℤ) : ℚ) := by
  cases b <;> simp [signed]

theorem sign_mul_natAbs (i : ℤ) :
    (if decide (i < 0) then -(i.natAbs : ℤ) else i.natAbs) = i := by
  split
  · rename_i h
    rw [decide_eq_true_eq] at h
    omega
  · rename_i h
    rw [decide_eq_true_eq] at h
    omega

theorem signed_natAbs (i : ℤ) : signed (decide (i < 0)) i.natAbs = i := by
  rw [signed_natCast, sign_mul_natAbs]

theorem Numeral.magnitude_nonneg (n : Numeral) : 0 ≤ n.magnitude := by
  unfold magnitude
  positivity

theorem truncate_signed {x : ℚ} (h : 0 ≤ x) (b : Bool) :
    (truncate (signed b x) : ℚ) = signed b ⌊x⌋₊ := by
  cases b with
  | false => simp [signed, truncate, h, natCast_floor_eq_intCast_floor h]
  | true =>
    simp only [signed, if_true, truncate]
    split
    · rename_i hx
      have h0 : x = 0 := by linarith
      simp [h0]
    · rw [Int.ceil_neg, Int.cast_neg, natCast_floor_eq_intCast_floor h]

theorem truncate_eq_of_signed {x : ℚ} (h : 0 ≤ x) (b : Bool) :
    truncate (signed b x) = if b then -(⌊x⌋₊ : ℤ) else ⌊x⌋₊ := by
  have hs := truncate_signed h b
  rw [signed_natCast] at hs
  exact_mod_cast hs

theorem truncate_mono {x y : ℚ} (h : x ≤ y) : truncate x ≤ truncate y := by
  unfold truncate
  split
  · rename_i hx
    rw [if_pos (hx.trans h)]
    exact Int.floor_mono h
  · rename_i hx
    split
    · rename_i hy
      have h₁ : ⌈x⌉ ≤ 0 := Int.ceil_le.mpr (by simpa using (not_le.mp hx).le)
      exact h₁.trans (Int.floor_nonneg.mpr hy)
    · exact Int.ceil_mono h

theorem cut_mono (places : ℕ) {x y : ℚ} (h : x ≤ y) : cut places x ≤ cut places y := by
  have hp : (0 : ℚ) < 10 ^ places := by positivity
  unfold cut
  refine div_le_div_of_nonneg_right ?_ hp.le
  exact_mod_cast truncate_mono (mul_le_mul_of_nonneg_right h hp.le)

theorem cut_signed (places : ℕ) {x : ℚ} (h : 0 ≤ x) (b : Bool) :
    cut places (signed b x) = signed b (⌊x * 10 ^ places⌋₊ / 10 ^ places) := by
  rw [cut, ← signed_mul, truncate_signed (by positivity), signed_div]

theorem cut_signed_eq_zero {places : ℕ} {x : ℚ} (b : Bool) (h : 0 ≤ x) (hx : x * 10 ^ places < 1) :
    cut places (signed b x) = 0 := by
  rw [cut_signed places h, Nat.floor_eq_zero.mpr hx, Nat.cast_zero, zero_div, signed, neg_zero,
    ite_self]

theorem cut_of_eq_div {places : ℕ} {x : ℚ} {m : ℤ} (h : x = m / 10 ^ places) :
    cut places x = x := by
  have hm : x * 10 ^ places = m := by
    rw [h, div_mul_cancel₀ _ (by positivity)]
  have htruncate : truncate (m : ℚ) = m := by
    rw [truncate, Int.floor_intCast, Int.ceil_intCast, ite_self]
  rw [cut, hm, htruncate, h]

/-- Cutting places first does not change the integer part. -/
theorem truncate_cut (places : ℕ) (x : ℚ) : truncate (cut places x) = truncate x := by
  obtain ⟨b, y, hy, rfl⟩ := exists_signed x
  have hfloor : ⌊(⌊y * 10 ^ places⌋₊ : ℚ) / 10 ^ places⌋₊ = ⌊y⌋₊ := by
    have h10 : ((10 ^ places : ℕ) : ℚ) = 10 ^ places := by push_cast; rfl
    rw [← h10, Nat.floor_div_natCast, Nat.floor_natCast, ← Nat.floor_div_natCast, h10,
      mul_div_cancel_right₀ _ (by positivity)]
  rw [cut_signed _ hy, truncate_eq_of_signed (by positivity), truncate_eq_of_signed hy, hfloor]

theorem abs_cut_le (places : ℕ) (x : ℚ) : |cut places x| ≤ |x| := by
  obtain ⟨b, y, hy, rfl⟩ := exists_signed x
  rw [cut_signed places hy, abs_signed (by positivity), abs_signed hy, div_le_iff₀ (by positivity)]
  exact Nat.floor_le (by positivity)

theorem abs_cut_sub_le (places : ℕ) (x : ℚ) : |cut places x - x| ≤ 1 / 10 ^ places := by
  obtain ⟨b, y, hy, rfl⟩ := exists_signed x
  have hp : (0 : ℚ) < 10 ^ places := by positivity
  have hle := Nat.floor_le (mul_nonneg hy hp.le)
  have hlt := Nat.lt_floor_add_one (y * 10 ^ places)
  have hsub : (⌊y * 10 ^ places⌋₊ : ℚ) / 10 ^ places - y =
      (⌊y * 10 ^ places⌋₊ - y * 10 ^ places) / 10 ^ places := by
    rw [sub_div, mul_div_cancel_right₀ _ hp.ne']
  rw [cut_signed places hy, abs_signed_sub, hsub, abs_div, abs_of_pos hp]
  refine div_le_div_of_nonneg_right (abs_le.mpr ?_) hp.le
  constructor <;> linarith

theorem Finite64.value_eq_signed (x : Finite64) :
    x.value = signed x.negative (x.magnitude.units / Binary64.one) := by
  unfold value signedUnits
  rw [signed_div, signed_natCast]

theorem Finite64.truncate_value (x : Finite64) : Number.truncate x.value = x.truncate := by
  rw [value_eq_signed, truncate_eq_of_signed (by positivity), Nat.floor_div_eq_div]
  rfl

theorem Decimal.value_eq_signed (d : Decimal) :
    d.value = signed (decide (d.coefficient < 0)) (d.coefficient.natAbs / 10 ^ d.scale) := by
  rw [value, signed_div, signed_natAbs]

theorem Decimal.value_ofInt64 (n : Int64) : (Decimal.ofInt64 n).value = n.toInt := by
  change (n.toInt : ℚ) / 10 ^ 0 = n.toInt
  rw [pow_zero, div_one]

theorem Decimal.truncate_value (d : Decimal) : Number.truncate d.value = d.truncate := by
  have h10 : ((10 ^ d.scale : ℕ) : ℚ) = 10 ^ d.scale := by push_cast; rfl
  have hpow : ((10 ^ d.scale : ℕ) : ℤ) = 10 ^ d.scale := by push_cast; rfl
  rw [value_eq_signed, truncate_eq_of_signed (by positivity), ← h10, Nat.floor_div_eq_div, truncate,
    ← hpow]
  conv_rhs => rw [← sign_mul_natAbs d.coefficient]
  split
  · rw [Int.neg_tdiv, Int.ofNat_tdiv]
  · rw [Int.ofNat_tdiv]

theorem compare_eq_compare {a b : ℤ} {x y : ℚ} (hlt : a < b ↔ x < y) (hgt : b < a ↔ y < x) :
    compare a b = compare x y := by
  rcases lt_trichotomy a b with h | h | h
  · rw [compare_lt_iff_lt.mpr h, compare_lt_iff_lt.mpr (hlt.mp h)]
  · have hxy : x = y :=
      le_antisymm (not_lt.mp fun hx => (hgt.mpr hx).ne h.symm) (not_lt.mp fun hx => (hlt.mpr hx).ne h)
    rw [compare_eq_iff_eq.mpr h, compare_eq_iff_eq.mpr hxy]
  · rw [compare_gt_iff_gt.mpr h, compare_gt_iff_gt.mpr (hgt.mp h)]

theorem Decimal.compare_eq (x y : Decimal) : x.compare y = Ord.compare x.value y.value := by
  have hx : (0 : ℚ) < 10 ^ x.scale := by positivity
  have hy : (0 : ℚ) < 10 ^ y.scale := by positivity
  unfold compare value
  refine compare_eq_compare ?_ ?_
  · rw [div_lt_div_iff₀ hx hy]
    exact_mod_cast Iff.rfl
  · rw [div_lt_div_iff₀ hy hx]
    exact_mod_cast Iff.rfl

theorem Finite64.compare?_eq (x y : Finite64) :
    (Binary64.finite x).compare? (.finite y) = some (compare x.value y.value) := by
  have h1 : (0 : ℚ) < Binary64.one := by exact_mod_cast Binary64.one_pos
  unfold Binary64.compare? value
  refine congrArg some (compare_eq_compare ?_ ?_)
  · rw [div_lt_div_iff_of_pos_right h1, Int.cast_lt]
  · rw [div_lt_div_iff_of_pos_right h1, Int.cast_lt]

end Questionnaire.Number
