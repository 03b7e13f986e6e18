import Questionnaire.Proofs.Number.Numeral
import Mathlib.Tactic.NormNum

namespace Questionnaire.Number

namespace Binary64

/-- What a count of units stands for. -/
def amount (u : ℕ) : ℚ := u / one

/-- The magnitude of a binary64 number that is nearest to a rational. -/
def nearest (x : ℚ) : ℚ := amount (nearestUnits (x * one))

theorem cast_one_pos : (0 : ℚ) < one := by exact_mod_cast one_pos

theorem amount_mul_one (u : ℕ) : amount u * one = u :=
  div_mul_cancel₀ _ cast_one_pos.ne'

theorem amount_nonneg (u : ℕ) : 0 ≤ amount u := div_nonneg (Nat.cast_nonneg _) cast_one_pos.le

theorem amount_inj {u v : ℕ} : amount u = amount v ↔ u = v := by
  unfold amount
  rw [div_left_inj' cast_one_pos.ne', Nat.cast_inj]

theorem amount_eq_zero {u : ℕ} : amount u = 0 ↔ u = 0 := by
  unfold amount
  rw [div_eq_zero_iff, Nat.cast_eq_zero]
  exact or_iff_left cast_one_pos.ne'

theorem lt_mul_one_of_amount_lt {u n : ℕ} (h : amount u < n) : u < n * one := by
  rw [amount, div_lt_iff₀ cast_one_pos] at h
  generalize one = v at *
  exact_mod_cast h

theorem nearest_mono {x y : ℚ} (h : x ≤ y) : nearest x ≤ nearest y := by
  refine div_le_div_of_nonneg_right ?_ cast_one_pos.le
  exact_mod_cast nearestUnits_mono (mul_le_mul_of_nonneg_right h cast_one_pos.le)

theorem nearest_amount {u : ℕ} (h : OnGrid u) : nearest (amount u) = amount u := by
  rw [nearest, amount_mul_one, nearestUnits_of_onGrid h]

theorem amount_unitsOfNat (n : ℕ) : amount (unitsOfNat n) = nearest n := by
  rw [unitsOfNat, snap_eq_nearestUnits _ Nat.one_pos, nearest]
  push_cast
  rw [div_one]

theorem amount_addUnits (u v : ℕ) : amount (addUnits u v) = nearest (amount u + amount v) := by
  rw [addUnits, snap_eq_nearestUnits _ Nat.one_pos, nearest, add_mul, amount_mul_one,
    amount_mul_one]
  push_cast
  rw [div_one]

theorem amount_mulUnits (u v : ℕ) : amount (mulUnits u v) = nearest (amount u * amount v) := by
  rw [mulUnits, snap_eq_nearestUnits _ one_pos, nearest, mul_assoc, amount_mul_one]
  congr 2
  unfold amount
  push_cast
  rw [div_mul_eq_mul_div]

theorem amount_divUnits (u : ℕ) {v : ℕ} (hv : 0 < v) :
    amount (divUnits u v) = nearest (amount u / amount v) := by
  have hv' : (v : ℚ) ≠ 0 := by exact_mod_cast hv.ne'
  have h1 := cast_one_pos.ne'
  rw [divUnits, snap_eq_nearestUnits _ hv, nearest]
  congr 2
  unfold amount
  push_cast
  field_simp

theorem two_dvd_one : 2 ∣ one := by
  change 2 ^ 1 ∣ 2 ^ unitExponent
  exact Nat.pow_dvd_pow 2 (by decide)

theorem add_half_div (u : ℕ) {t : ℕ} (ht : 0 < t) (h2 : 2 ∣ t) :
    (u + t / 2) / t = ⌊(u : ℚ) / t + 1 / 2⌋₊ := by
  obtain ⟨r, rfl⟩ := h2
  have hr : (r : ℚ) ≠ 0 := by
    rintro hr
    simp_all
  rw [Nat.mul_div_cancel_left r (by decide), ← Nat.floor_div_eq_div (K := ℚ)]
  congr 1
  push_cast
  field_simp

theorem roundUnits_eq (u : ℕ) : roundUnits u = ⌊amount u + 1 / 2⌋₊ :=
  add_half_div u one_pos two_dvd_one

theorem nearest_natCast_iff {n : ℕ} : nearest n = n ↔ OnGrid (n * one) := by
  have hamount : amount (n * one) = n := by
    unfold amount
    push_cast
    exact mul_div_cancel_right₀ _ cast_one_pos.ne'
  constructor
  · intro h
    rw [← hamount, nearest, amount_inj] at h
    exact h ▸ onGrid_nearestUnits _
  · intro h
    rw [← hamount, nearest_amount h]

theorem nearest_natCast {n : ℕ} (h : n ≤ 2 ^ 53) : nearest n = n :=
  nearest_natCast_iff.mpr (onGrid_mul_two_pow h)

theorem nearest_natCast_iff_dvd {n : ℕ} (hlow : 2 ^ 63 ≤ n) (hhigh : n < 2 ^ 64) :
    nearest n = n ↔ 2 ^ 11 ∣ n := by
  have hspacing : spacing (n * one) = 11 + unitExponent := by
    have h52 : 52 + (11 + unitExponent) = 63 + unitExponent := by omega
    have h53 : 53 + (11 + unitExponent) = 64 + unitExponent := by omega
    refine spacing_eq (.inr ?_) ?_
    · rw [h52, Nat.pow_add, one]
      exact Nat.mul_le_mul_right _ hlow
    · rw [h53, Nat.pow_add, one]
      exact Nat.mul_lt_mul_of_pos_right hhigh (Nat.two_pow_pos _)
  rw [nearest_natCast_iff, OnGrid, hspacing, Nat.pow_add]
  exact Nat.mul_dvd_mul_iff_right one_pos

theorem nearest_zero : nearest 0 = 0 := by
  exact_mod_cast nearest_natCast (n := 0) (by decide)

theorem nearest_ten_pow {k : ℕ} (h : k ≤ 22) : nearest (10 ^ k) = 10 ^ k := by
  have hfive : 5 ^ k ≤ 2 ^ 53 := (Nat.pow_le_pow_right (by decide) h).trans (by decide)
  have hunits : (10 : ℚ) ^ k = amount (5 ^ k * 2 ^ (k + unitExponent)) := by
    unfold amount one
    push_cast
    rw [pow_add, ← mul_assoc, ← mul_pow, mul_div_cancel_right₀ _ (by positivity)]
    norm_num
  rw [hunits, nearest_amount (onGrid_mul_two_pow hfive)]

/-- A number differs from another by at most some units of its 53rd bit. -/
def Close (k a x : ℚ) : Prop := |a - x| ≤ k / 2 ^ 53 * x

theorem Close.mono {k l a x : ℚ} (h : Close k a x) (hkl : k ≤ l) (hx : 0 ≤ x) : Close l a x :=
  h.trans (mul_le_mul_of_nonneg_right (div_le_div_of_nonneg_right hkl (by positivity)) hx)

theorem Close.refl {k x : ℚ} (hk : 0 ≤ k) (hx : 0 ≤ x) : Close k x x := by
  rw [Close, sub_self, abs_zero]
  positivity

theorem Close.add {k a b x y : ℚ} (ha : Close k a x) (hb : Close k b y) :
    Close k (a + b) (x + y) := by
  have h : a + b - (x + y) = (a - x) + (b - y) := by ring
  rw [Close, h, mul_add]
  exact (abs_add_le _ _).trans (add_le_add ha hb)

theorem Close.bounds {k a x : ℚ} (h : Close k a x) :
    (1 - k / 2 ^ 53) * x ≤ a ∧ a ≤ (1 + k / 2 ^ 53) * x := by
  obtain ⟨h₁, h₂⟩ := abs_le.mp h
  constructor <;> linarith

theorem div_two_pow_le {k : ℚ} (h : k ≤ 2 ^ 20) : k / 2 ^ 53 ≤ 1 / 2 ^ 33 := by
  rw [div_le_div_iff₀ (by positivity) (by positivity)]
  linarith

theorem Close.mul {k l a b x y : ℚ} (ha : Close k a x) (hb : Close l b y) (hx : 0 ≤ x)
    (hy : 0 ≤ y) (hk : 0 ≤ k) (hl : 0 ≤ l) (hk' : k ≤ 2 ^ 20) (hl' : l ≤ 2 ^ 20) :
    Close (k + l + 1 / 100) (a * b) (x * y) := by
  have hkl : k * l / 2 ^ 53 ≤ 1 / 100 := by
    have := mul_le_mul hk' hl' hl (by positivity)
    linarith
  have h : a * b - x * y = (a - x) * (b - y) + (a - x) * y + x * (b - y) := by ring
  have h₁ : |(a - x) * (b - y)| ≤ k / 2 ^ 53 * x * (l / 2 ^ 53 * y) := by
    rw [abs_mul]
    exact mul_le_mul ha hb (abs_nonneg _) (by positivity)
  have h₂ : |(a - x) * y| ≤ k / 2 ^ 53 * x * y := by
    rw [abs_mul, abs_of_nonneg hy]
    exact mul_le_mul_of_nonneg_right ha hy
  have h₃ : |x * (b - y)| ≤ x * (l / 2 ^ 53 * y) := by
    rw [abs_mul, abs_of_nonneg hx]
    exact mul_le_mul_of_nonneg_left hb hx
  rw [Close, h]
  calc |(a - x) * (b - y) + (a - x) * y + x * (b - y)|
      ≤ |(a - x) * (b - y)| + |(a - x) * y| + |x * (b - y)| := abs_add_three _ _ _
    _ ≤ k / 2 ^ 53 * x * (l / 2 ^ 53 * y) + k / 2 ^ 53 * x * y + x * (l / 2 ^ 53 * y) := by
        gcongr
    _ = (k + l + k * l / 2 ^ 53) / 2 ^ 53 * (x * y) := by ring
    _ ≤ (k + l + 1 / 100) / 2 ^ 53 * (x * y) := by gcongr

theorem Close.div {k l a b x y : ℚ} (ha : Close k a x) (hb : Close l b y) (hx : 0 ≤ x)
    (hy : 0 < y) (hk : 0 ≤ k) (hl : 0 ≤ l) (hk' : k ≤ 2 ^ 20) (hl' : l ≤ 2 ^ 20) :
    Close (k + l + 1 / 100) (a / b) (x / y) := by
  have hl₁ := div_two_pow_le hl'
  have hlow : (1 - l / 2 ^ 53) * y ≤ b := hb.bounds.1
  have hb0 : 0 < b := lt_of_lt_of_le (mul_pos (by linarith) hy) hlow
  have h : a / b - x / y = ((a - x) * y - x * (b - y)) / (b * y) := by
    field_simp
    ring
  have h₁ : |(a - x) * y| ≤ k / 2 ^ 53 * x * y := by
    rw [abs_mul, abs_of_pos hy]
    exact mul_le_mul_of_nonneg_right ha hy.le
  have h₂ : |x * (b - y)| ≤ x * (l / 2 ^ 53 * y) := by
    rw [abs_mul, abs_of_nonneg hx]
    exact mul_le_mul_of_nonneg_left hb hx
  have hsmall : k + l ≤ (k + l + 1 / 100) * (1 - l / 2 ^ 53) := by
    have : (k + l + 1 / 100) * (l / 2 ^ 53) ≤ (2 ^ 20 + 2 ^ 20 + 1 / 100) * (1 / 2 ^ 33) := by
      gcongr
    linarith
  rw [Close, h, abs_div, abs_of_pos (mul_pos hb0 hy), div_le_iff₀ (mul_pos hb0 hy)]
  calc |(a - x) * y - x * (b - y)| ≤ |(a - x) * y| + |x * (b - y)| := abs_sub _ _
    _ ≤ k / 2 ^ 53 * x * y + x * (l / 2 ^ 53 * y) := add_le_add h₁ h₂
    _ = (k + l) * (x * y / 2 ^ 53) := by ring
    _ ≤ (k + l + 1 / 100) * (1 - l / 2 ^ 53) * (x * y / 2 ^ 53) := by gcongr
    _ = (k + l + 1 / 100) / 2 ^ 53 * (x / y) * ((1 - l / 2 ^ 53) * y * y) := by field_simp
    _ ≤ (k + l + 1 / 100) / 2 ^ 53 * (x / y) * (b * y) := by gcongr

/-- Zero, or a number whose neighbourhood lies far above the smallest binary64 numbers. -/
def Ordinary (x : ℚ) : Prop := x = 0 ∨ 1 / 10 ^ 29 ≤ x

theorem ordinary_natCast (n : ℕ) : Ordinary n := by
  rcases Nat.eq_zero_or_pos n with rfl | hn
  · exact .inl rfl
  · have h1 : (1 : ℚ) ≤ n := by exact_mod_cast hn
    exact .inr (le_trans (by norm_num) h1)

theorem Ordinary.nonneg {x : ℚ} (h : Ordinary x) : 0 ≤ x := by
  rcases h with rfl | h
  · exact le_rfl
  · exact le_trans (by positivity) h

theorem two_pow_mul_le_one : 2 ^ 52 * 10 ^ 30 ≤ one := by
  calc 2 ^ 52 * 10 ^ 30 ≤ 2 ^ 152 := by decide
    _ ≤ one := Nat.pow_le_pow_right (by decide) (by decide)

theorem two_pow_le_mul_one {a : ℚ} (h : 1 / 10 ^ 30 ≤ a) : 2 ^ 52 ≤ a * one := by
  have hone := two_pow_mul_le_one
  generalize one = u at *
  have hu : (2 : ℚ) ^ 52 * 10 ^ 30 ≤ u := by exact_mod_cast hone
  calc (2 : ℚ) ^ 52 = 1 / 10 ^ 30 * (2 ^ 52 * 10 ^ 30) := by field_simp
    _ ≤ a * u := by gcongr

theorem Close.nearest {k a x : ℚ} (h : Close k a x) (hx : Ordinary x) (hk : 0 ≤ k)
    (hk' : k ≤ 2 ^ 20) : Close (k + 101 / 100) (nearest a) x := by
  have hk₁ := div_two_pow_le hk'
  rcases hx with rfl | hx
  · have ha : a = 0 := by
      have h0 := h
      rw [Close, mul_zero, sub_zero] at h0
      exact abs_eq_zero.mp (le_antisymm h0 (abs_nonneg a))
    rw [ha, nearest_zero]
    exact Close.refl (by linarith) le_rfl
  · have hx0 : 0 < x := lt_of_lt_of_le (by positivity) hx
    have hlarge : 1 / 10 ^ 30 ≤ a := by
      calc (1 : ℚ) / 10 ^ 30 ≤ (1 - 1 / 2 ^ 33) * (1 / 10 ^ 29) := by norm_num
        _ ≤ (1 - k / 2 ^ 53) * x := by gcongr; linarith
        _ ≤ a := h.bounds.1
    have hdiff : Binary64.nearest a - a = (nearestUnits (a * one) - a * one) / one := by
      rw [Binary64.nearest, amount, sub_div, mul_div_cancel_right₀ _ cast_one_pos.ne']
    have h₁ : |Binary64.nearest a - a| ≤ 1 / 2 ^ 53 * a := by
      rw [hdiff, abs_div, abs_of_pos cast_one_pos, div_le_iff₀ cast_one_pos, mul_assoc]
      exact abs_nearestUnits_sub_le (two_pow_le_mul_one hlarge)
    have hsub : Binary64.nearest a - x = (Binary64.nearest a - a) + (a - x) := by ring
    rw [Close, hsub]
    calc |(Binary64.nearest a - a) + (a - x)| ≤ |Binary64.nearest a - a| + |a - x| := abs_add_le _ _
      _ ≤ 1 / 2 ^ 53 * a + k / 2 ^ 53 * x := add_le_add h₁ h
      _ ≤ 1 / 2 ^ 53 * ((1 + k / 2 ^ 53) * x) + k / 2 ^ 53 * x := by gcongr; exact h.bounds.2
      _ = (k + 1 + k / 2 ^ 53) / 2 ^ 53 * x := by ring
      _ ≤ (k + 101 / 100) / 2 ^ 53 * x := by
        have hk₂ : k + 1 + k / 2 ^ 53 ≤ k + 101 / 100 := by linarith
        gcongr

theorem close_nearest {x : ℚ} (h : Ordinary x) : Close (101 / 100) (nearest x) x := by
  have h' := (Close.refl le_rfl h.nonneg).nearest h le_rfl (by norm_num)
  rwa [zero_add] at h'

theorem nearest_pos {x : ℚ} (h : Ordinary x) (hx : 0 < x) : 0 < nearest x :=
  lt_of_lt_of_le (mul_pos (by norm_num) hx) (close_nearest h).bounds.1

theorem amount_pos {u : ℕ} (h : 0 < amount u) : 0 < u := by
  rcases Nat.eq_zero_or_pos u with rfl | hu
  · rw [amount, Nat.cast_zero, zero_div] at h
    exact absurd h (lt_irrefl 0)
  · exact hu

theorem unitsOfNat_pos {n : ℕ} (h : 0 < n) : 0 < unitsOfNat n := by
  refine amount_pos ?_
  rw [amount_unitsOfNat]
  exact nearest_pos (ordinary_natCast n) (by exact_mod_cast h)

end Binary64

end Questionnaire.Number
