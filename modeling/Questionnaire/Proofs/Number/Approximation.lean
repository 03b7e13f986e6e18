import Questionnaire.Proofs.Number.Closeness

namespace Questionnaire.Number

namespace Decimal

open Binary64

/-- The factors that square-and-multiply takes are exact; only the last product is rounded. -/
theorem amount_powerUnits {result base n i t : ℕ} (hn : n ≠ 0) (hr : amount result = 10 ^ i)
    (hb : amount base = 10 ^ 2 ^ t) (hi : i < 2 ^ t) (hs : i + 2 ^ t * n ≤ 28) :
    amount (powerUnits result base n) = nearest (10 ^ (i + 2 ^ t * n)) := by
  induction n using Nat.strongRecOn generalizing result base i t with
  | ind n ih =>
    have hsquare : n / 2 ≠ 0 → amount (mulUnits base base) = 10 ^ 2 ^ (t + 1) := by
      intro h2
      have hpow : 2 ^ t * 2 ≤ 2 ^ t * n := Nat.mul_le_mul_left _ (by omega)
      have ht : 2 ^ (t + 1) ≤ 22 := by
        have ht4 : t < 4 := by
          by_contra hc
          have : 2 ^ 4 ≤ 2 ^ t := Nat.pow_le_pow_right (by decide) (by omega)
          omega
        calc 2 ^ (t + 1) ≤ 2 ^ 4 := Nat.pow_le_pow_right (by decide) (by omega)
          _ ≤ 22 := by decide
      rw [amount_mulUnits, hb, ← pow_add, ← Nat.two_mul, ← Nat.pow_succ', nearest_ten_pow ht]
    rw [powerUnits, dif_neg hn]
    dsimp only
    by_cases hodd : n % 2 = 1
    · rw [if_pos hodd]
      have hproduct : amount (mulUnits result base) = nearest (10 ^ (i + 2 ^ t)) := by
        rw [amount_mulUnits, hr, hb, ← pow_add]
      split
      · rename_i h2
        have h1 : n = 1 := by omega
        rw [hproduct, h1, Nat.mul_one]
      · rename_i h2
        have hsplit : i + 2 ^ t + 2 ^ (t + 1) * (n / 2) = i + 2 ^ t * n := by
          have hn2 : n = 2 * (n / 2) + 1 := by omega
          conv_rhs => rw [hn2]
          rw [Nat.pow_succ]
          ring
        have hexact : i + 2 ^ t ≤ 22 := by
          have : 2 ^ t * 3 ≤ 2 ^ t * n := Nat.mul_le_mul_left _ (by omega)
          omega
        rw [nearest_ten_pow hexact] at hproduct
        rw [ih (n / 2) (by omega) h2 hproduct (hsquare h2) (by rw [Nat.pow_succ]; omega)
          (by omega), hsplit]
    · rw [if_neg hodd]
      have h2 : n / 2 ≠ 0 := by omega
      rw [if_neg h2]
      have hsplit : i + 2 ^ (t + 1) * (n / 2) = i + 2 ^ t * n := by
        have hn2 : n = 2 * (n / 2) := by omega
        conv_rhs => rw [hn2]
        rw [Nat.pow_succ]
        ring
      rw [ih (n / 2) (by omega) h2 hr (hsquare h2) (by rw [Nat.pow_succ]; omega) (by omega), hsplit]

theorem amount_powerUnits_ten {s : ℕ} (hs : s ≤ maxScale) :
    amount (powerUnits one (unitsOfNat 10) s) = nearest (10 ^ s) := by
  have hone : amount one = 10 ^ 0 := div_self cast_one_pos.ne'
  rcases Nat.eq_zero_or_pos s with rfl | hpos
  · rw [powerUnits, dif_pos rfl, hone, nearest_ten_pow (by decide)]
  · have hten : amount (unitsOfNat 10) = 10 ^ 2 ^ 0 := by
      rw [amount_unitsOfNat, nearest_natCast (by decide)]
      norm_num
    have h := amount_powerUnits (by omega) hone hten (by decide)
      (by unfold maxScale at hs; omega : 0 + 2 ^ 0 * s ≤ 28)
    rwa [Nat.pow_zero, Nat.one_mul, Nat.zero_add] at h

theorem close_floor {k a : ℚ} {n : ℕ} (h : Close k a n) (ha : 0 ≤ a) :
    Close (2 * k) (⌊a + 1 / 2⌋₊ : ℕ) n := by
  have hle : (⌊a + 1 / 2⌋₊ : ℚ) ≤ a + 1 / 2 := Nat.floor_le (by linarith)
  have hlt : a + 1 / 2 < ⌊a + 1 / 2⌋₊ + 1 := Nat.lt_floor_add_one _
  by_cases hn : |a - n| < 1 / 2
  · obtain ⟨h₁, h₂⟩ := abs_lt.mp hn
    have hfloor : ⌊a + 1 / 2⌋₊ = n := by
      rw [Nat.floor_eq_iff (by linarith)]
      constructor <;> linarith
    rw [hfloor, Close, sub_self, abs_zero]
    have := (abs_nonneg _).trans h
    linarith
  · rw [Close] at *
    have hround : |(⌊a + 1 / 2⌋₊ : ℚ) - a| ≤ 1 / 2 := by
      rw [abs_le]
      constructor <;> linarith
    have hsub : (⌊a + 1 / 2⌋₊ : ℚ) - n = (⌊a + 1 / 2⌋₊ - a) + (a - n) := by ring
    rw [hsub]
    have := abs_add_le ((⌊a + 1 / 2⌋₊ : ℚ) - a) (a - n)
    have h2 : 2 * k / 2 ^ 53 * n = k / 2 ^ 53 * (n : ℚ) + k / 2 ^ 53 * n := by ring
    linarith

theorem floor_eq_of_close {k a : ℚ} {n : ℕ} (h : Close k a n) (hk : k / 2 ^ 53 * n < 1 / 2) :
    ⌊a + 1 / 2⌋₊ = n := by
  obtain ⟨h₁, h₂⟩ := abs_lt.mp (h.trans_lt hk)
  rw [Nat.floor_eq_iff (by linarith [(Nat.cast_nonneg n : (0 : ℚ) ≤ n)])]
  constructor <;> linarith

/-- The sum of the whole part and the places of `n / 10 ^ s`, every step rounded. -/
def roundedSum (n s : ℕ) : ℚ :=
  nearest (nearest (n / 10 ^ s : ℕ) + nearest (nearest (n % 10 ^ s : ℕ) / nearest (10 ^ s)))

theorem ordinary_div_ten_pow (n : ℕ) {s : ℕ} (hs : s ≤ maxScale) :
    Ordinary ((n : ℚ) / 10 ^ s) := by
  rcases Nat.eq_zero_or_pos n with rfl | hn
  · left
    simp
  · right
    have h1 : (1 : ℚ) ≤ n := by exact_mod_cast hn
    have hpow : (10 : ℚ) ^ s ≤ 10 ^ 29 := pow_le_pow_right₀ (by norm_num) (hs.trans (by decide))
    gcongr

theorem close_places {k : ℚ} {n s : ℕ} (hs : s ≤ maxScale) (hk : 0 ≤ k) (hk' : k ≤ 2)
    (hrest : Close k (nearest (n % 10 ^ s : ℕ)) (n % 10 ^ s : ℕ))
    (hpow : Close k (nearest (10 ^ s)) (10 ^ s)) :
    Close (2 * k + 102 / 100) (nearest (nearest (n % 10 ^ s : ℕ) / nearest (10 ^ s)))
      ((n % 10 ^ s : ℕ) / 10 ^ s) := by
  have hx := ordinary_div_ten_pow (n % 10 ^ s) hs
  have hquot := hrest.div hpow (Nat.cast_nonneg _) (by positivity) hk hk (by linarith) (by linarith)
  exact (hquot.nearest hx (by linarith) (by linarith)).mono (by linarith) hx.nonneg

theorem close_roundedSum {k : ℚ} {n s : ℕ} (hs : s ≤ maxScale) (hk : 0 ≤ k) (hk' : k ≤ 2)
    (hwhole : Close k (nearest (n / 10 ^ s : ℕ)) (n / 10 ^ s : ℕ))
    (hrest : Close k (nearest (n % 10 ^ s : ℕ)) (n % 10 ^ s : ℕ))
    (hpow : Close k (nearest (10 ^ s)) (10 ^ s)) :
    Close (2 * k + 203 / 100) (roundedSum n s) (n / 10 ^ s) := by
  have hx := ordinary_div_ten_pow n hs
  have hplaces := close_places hs hk hk' hrest hpow
  have hsum := (hwhole.mono (by linarith) (Nat.cast_nonneg _)).add hplaces
  have hsplit : ((n / 10 ^ s : ℕ) : ℚ) + (n % 10 ^ s : ℕ) / 10 ^ s = n / 10 ^ s := by
    have hn : (n : ℚ) = 10 ^ s * (n / 10 ^ s : ℕ) + (n % 10 ^ s : ℕ) := by
      exact_mod_cast (Nat.div_add_mod n (10 ^ s)).symm
    rw [hn]
    field_simp
  rw [hsplit] at hsum
  exact (hsum.nearest hx (by linarith) (by linarith)).mono (by linarith) hx.nonneg

/-- The integer that the scaled sum is rounded to. -/
def roundedScaled (n s : ℕ) : ℕ := ⌊nearest (roundedSum n s * nearest (10 ^ s)) + 1 / 2⌋₊

theorem close_scaled {k : ℚ} {n s : ℕ} (hs : s ≤ maxScale) (hk : 0 ≤ k) (hk' : k ≤ 2)
    (hwhole : Close k (nearest (n / 10 ^ s : ℕ)) (n / 10 ^ s : ℕ))
    (hrest : Close k (nearest (n % 10 ^ s : ℕ)) (n % 10 ^ s : ℕ))
    (hpow : Close k (nearest (10 ^ s)) (10 ^ s)) :
    Close (3 * k + 305 / 100) (nearest (roundedSum n s * nearest (10 ^ s))) n := by
  have hsum := close_roundedSum hs hk hk' hwhole hrest hpow
  have hmul := hsum.mul hpow (ordinary_div_ten_pow n hs).nonneg (by positivity) (by linarith) hk
    (by linarith) (by linarith)
  rw [div_mul_cancel₀ _ (by positivity)] at hmul
  exact (hmul.nearest (ordinary_natCast n) (by linarith) (by linarith)).mono (by linarith)
    (Nat.cast_nonneg _)

theorem amount_places (n s : ℕ) :
    amount (divUnits (unitsOfNat (n % 10 ^ s)) (unitsOfNat (10 ^ s))) =
      nearest (nearest (n % 10 ^ s : ℕ) / nearest (10 ^ s)) := by
  rw [amount_divUnits _ (unitsOfNat_pos (by positivity)), amount_unitsOfNat, amount_unitsOfNat]
  push_cast
  rfl

theorem amount_approximateUnits_of_dvd {n s : ℕ} (h : n % 10 ^ s = 0) :
    amount (approximateUnits n s) = nearest (n / 10 ^ s : ℕ) := by
  have hplaces := amount_places n s
  rw [h, Nat.cast_zero, nearest_zero, zero_div, nearest_zero, amount_eq_zero] at hplaces
  unfold approximateUnits
  dsimp only
  rw [h, if_pos hplaces, amount_unitsOfNat]

theorem amount_approximateUnits {n s : ℕ} (hs : s ≤ maxScale) (h : n % 10 ^ s ≠ 0) :
    amount (approximateUnits n s) = nearest (nearest (roundedScaled n s) / nearest (10 ^ s)) := by
  have hpow : Ordinary (10 ^ s) := by exact_mod_cast ordinary_natCast (10 ^ s)
  have hclose := close_places hs (by norm_num) (by norm_num)
    (close_nearest (ordinary_natCast (n % 10 ^ s))) (close_nearest hpow)
  have hrest : (0 : ℚ) < (n % 10 ^ s : ℕ) / 10 ^ s :=
    div_pos (by exact_mod_cast Nat.pos_of_ne_zero h) (by positivity)
  rw [← amount_places] at hclose
  have hplaces : 0 < divUnits (unitsOfNat (n % 10 ^ s)) (unitsOfNat (10 ^ s)) :=
    amount_pos (lt_of_lt_of_le (mul_pos (by norm_num) hrest) hclose.bounds.1)
  have hshift : 0 < powerUnits one (unitsOfNat 10) s := by
    refine amount_pos ?_
    rw [amount_powerUnits_ten hs]
    exact nearest_pos hpow (by positivity)
  unfold approximateUnits
  dsimp only
  rw [if_neg hplaces.ne', amount_divUnits _ hshift, amount_unitsOfNat, amount_powerUnits_ten hs,
    roundUnits_eq, amount_mulUnits, amount_addUnits, amount_places, amount_unitsOfNat,
    amount_powerUnits_ten hs, roundedScaled, roundedSum]

theorem natCast_div_of_dvd {n s : ℕ} (h : n % 10 ^ s = 0) :
    ((n / 10 ^ s : ℕ) : ℚ) = n / 10 ^ s := by
  rw [eq_div_iff (by positivity)]
  exact_mod_cast Nat.div_mul_cancel (Nat.dvd_of_mod_eq_zero h)

theorem close_approximateUnits {n s : ℕ} (hs : s ≤ maxScale) :
    Close 16 (amount (approximateUnits n s)) (n / 10 ^ s) := by
  have hx := ordinary_div_ten_pow n hs
  by_cases h : n % 10 ^ s = 0
  · rw [amount_approximateUnits_of_dvd h, natCast_div_of_dvd h]
    exact (close_nearest hx).mono (by norm_num) hx.nonneg
  · have hpow : Close (101 / 100) (nearest (10 ^ s)) (10 ^ s) :=
      close_nearest (by exact_mod_cast ordinary_natCast (10 ^ s))
    have hscaled := close_scaled hs (by norm_num) (by norm_num)
      (close_nearest (ordinary_natCast (n / 10 ^ s)))
      (close_nearest (ordinary_natCast (n % 10 ^ s))) hpow
    have hrounded := (close_floor hscaled (div_nonneg (Nat.cast_nonneg _) cast_one_pos.le)).nearest
      (ordinary_natCast n) (by norm_num) (by norm_num)
    have hquot := (hrounded.div hpow (Nat.cast_nonneg n) (by positivity) (by norm_num)
      (by norm_num) (by norm_num) (by norm_num)).nearest hx (by norm_num) (by norm_num)
    rw [amount_approximateUnits hs h]
    exact hquot.mono (by norm_num) hx.nonneg

/-- Few digits and places are rounded only once. -/
theorem amount_approximateUnits_of_lt {n s : ℕ} (hn : n < 10 ^ 15) (hs : s ≤ 22) :
    amount (approximateUnits n s) = nearest (n / 10 ^ s) := by
  by_cases h : n % 10 ^ s = 0
  · rw [amount_approximateUnits_of_dvd h, natCast_div_of_dvd h]
  · have hs' : s ≤ maxScale := hs.trans (by decide)
    have hexact : ∀ m ≤ n, nearest m = m := fun m hm => nearest_natCast (by omega)
    have hclose : ∀ m ≤ n, Close 0 (nearest m) m := fun m hm => by
      rw [hexact m hm]
      exact Close.refl le_rfl (Nat.cast_nonneg m)
    have hpow : Close 0 (nearest (10 ^ s)) (10 ^ s) := by
      rw [nearest_ten_pow hs]
      exact Close.refl le_rfl (by positivity)
    have hscaled := close_scaled hs' le_rfl (by norm_num) (hclose _ (Nat.div_le_self _ _))
      (hclose _ (Nat.mod_le _ _)) hpow
    have hsmall : (3 * 0 + 305 / 100) / 2 ^ 53 * (n : ℚ) < 1 / 2 := by
      have hn' : (n : ℚ) < 10 ^ 15 := by exact_mod_cast hn
      linarith
    rw [amount_approximateUnits hs' h, roundedScaled, floor_eq_of_close hscaled hsmall,
      hexact n le_rfl, nearest_ten_pow hs]

theorem onGrid_approximateUnits {n s : ℕ} (hs : s ≤ maxScale) : OnGrid (approximateUnits n s) := by
  have hamount : ∃ x, amount (approximateUnits n s) = nearest x := by
    by_cases h : n % 10 ^ s = 0
    · exact ⟨_, amount_approximateUnits_of_dvd h⟩
    · exact ⟨_, amount_approximateUnits hs h⟩
  obtain ⟨x, hx⟩ := hamount
  rw [amount_inj.mp hx]
  exact onGrid_nearestUnits _

theorem approximateUnits_lt {n s : ℕ} (hn : n < coefficientBound) (hs : s ≤ maxScale) :
    approximateUnits n s < limit := by
  have hquot : (n : ℚ) / 10 ^ s ≤ 2 ^ 96 := by
    rw [div_le_iff₀ (by positivity)]
    calc (n : ℚ) ≤ 2 ^ 96 * 1 := by rw [mul_one]; exact_mod_cast hn.le
      _ ≤ 2 ^ 96 * 10 ^ s := by gcongr; exact one_le_pow₀ (by norm_num)
  have hamount : amount (approximateUnits n s) < 2 ^ 97 := by
    calc amount (approximateUnits n s) ≤ (1 + 16 / 2 ^ 53) * (n / 10 ^ s) :=
          (close_approximateUnits hs).bounds.2
      _ ≤ (1 + 16 / 2 ^ 53) * 2 ^ 96 := by gcongr
      _ < 2 ^ 97 := by norm_num
  calc approximateUnits n s < 2 ^ 97 * one := lt_mul_one_of_amount_lt (by exact_mod_cast hamount)
    _ = one * 2 ^ 97 := Nat.mul_comm _ _
    _ ≤ limit := Nat.mul_le_mul_left _ (Nat.pow_le_pow_right (by decide) (by decide))

theorem toBinary64_eq_finite (d : Decimal) :
    ∃ f : Finite64, d.toBinary64 = .finite f ∧
      f.value = signed (decide (d.coefficient < 0))
        (amount (approximateUnits d.coefficient.natAbs d.scale)) := by
  rw [toBinary64, ofUnits_of_lt (onGrid_approximateUnits d.scale_le)
    (approximateUnits_lt d.coefficient_lt d.scale_le)]
  exact ⟨_, rfl, Finite64.value_eq_signed _⟩

end Decimal

end Questionnaire.Number
