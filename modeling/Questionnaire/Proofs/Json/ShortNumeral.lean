import Questionnaire.Json.Printer
import Questionnaire.Proofs.Number.DecimalReader
import Questionnaire.Proofs.Number.Rendering

namespace Questionnaire.Number.ShortDecimal

variable {s : ShortDecimal}

theorem value_nonneg (s : ShortDecimal) : 0 ≤ s.value := by
  unfold value
  positivity

theorem value_of_nonneg (hp : 0 ≤ s.power) :
    s.value = (s.coefficient * 10 ^ s.power.toNat : ℕ) := by
  rw [value, ten_zpow_eq, Int.toNat_of_nonpos (by omega : -s.power ≤ 0)]
  push_cast
  ring

theorem value_of_nonpos (hp : s.power ≤ 0) :
    s.value = s.coefficient / 10 ^ (-s.power).toNat := by
  rw [value, ten_zpow_eq, Int.toNat_of_nonpos hp]
  push_cast
  ring

theorem value_mul_maxScale (h : Decimal.maxScale < (-s.power).toNat) :
    s.value * 10 ^ Decimal.maxScale = s.coefficient / 10 ^ ((-s.power).toNat - Decimal.maxScale) := by
  have hsplit : (10 : ℚ) ^ (-s.power).toNat =
      10 ^ ((-s.power).toNat - Decimal.maxScale) * 10 ^ Decimal.maxScale := by
    rw [← pow_add]
    congr 1
    omega
  rw [value_of_nonpos (by omega), hsplit]
  field_simp

theorem roundPlaces_value (hp : -28 ≤ s.power) : roundPlaces Decimal.maxScale s.value = s.value := by
  have hnat : s.value * 10 ^ Decimal.maxScale = (s.coefficient * 10 ^ (s.power + 28).toNat : ℕ) := by
    obtain ⟨k, hk⟩ := Int.eq_ofNat_of_zero_le (by omega : 0 ≤ s.power + 28)
    have h28 : (10 : ℚ) ^ Decimal.maxScale = 10 ^ (28 : ℤ) := by
      rw [Decimal.maxScale]
      norm_cast
    rw [value, mul_assoc, h28, ← zpow_add₀ (by norm_num), hk, Int.toNat_natCast, zpow_natCast]
    push_cast
    rfl
  exact roundPlaces_eq hnat

theorem value_lt_of_exponent {k : ℤ} (h : s.exponent < k) : s.value < 10 ^ k :=
  s.value_lt.trans_le (zpow_le_zpow_right₀ (by norm_num) (by omega))

/-- The exponent of the first digit is the place of the decimal between the powers of ten. -/
theorem exponent_lt_iff (hs : s.Bounded) (k : ℤ) : s.exponent < k ↔ s.value < 10 ^ k := by
  constructor
  · exact value_lt_of_exponent
  · intro h
    by_contra hge
    have hpow : (10 : ℚ) ^ k ≤ 10 ^ s.exponent := zpow_le_zpow_right₀ (by norm_num) (not_lt.mp hge)
    exact absurd (hpow.trans (s.le_value hs.pos)) (not_le.mpr h)

theorem exponent_lt (hs : s.Bounded) (hv : s.value < 2 ^ 96) : s.exponent < 29 := by
  rw [exponent_lt_iff hs]
  exact hv.trans (by norm_num)

theorem power_pos_of_le (hs : s.Bounded) (h : 2 ^ 96 ≤ s.value) : 0 < s.power := by
  by_contra hp
  have hle : s.value ≤ s.coefficient := by
    rw [value_of_nonpos (not_lt.mp hp)]
    exact div_le_self (Nat.cast_nonneg _) (one_le_pow₀ (by norm_num))
  have hsmall : (s.coefficient : ℚ) < 2 ^ 58 := by exact_mod_cast hs.lt
  linarith

theorem fract_value_of_le (hs : s.Bounded) (h : 2 ^ 96 ≤ s.value) (places : ℕ) :
    Int.fract (s.value * 10 ^ places) = 0 := by
  have hwhole : s.value * 10 ^ places =
      (s.coefficient * 10 ^ s.power.toNat * 10 ^ places : ℕ) := by
    rw [value_of_nonneg (power_pos_of_le hs h).le]
    push_cast
    ring
  rw [hwhole, Int.fract_natCast]

theorem length_digits_le (hs : s.Bounded) : (digitsOfNat s.coefficient).length ≤ 18 :=
  (Nat.length_toDigits_le_iff (by decide) (by decide)).mpr (hs.lt.trans (by decide))

theorem coefficient_lt (hs : s.Bounded) : s.coefficient < Decimal.coefficientBound :=
  hs.lt.trans_le (Nat.pow_le_pow_right (by decide) (by decide))

theorem value_lt_of_isPlain (h : Json.realStyle.IsPlain s) : s.value < 10 ^ 16 := by
  have hexp : s.exponent < (16 : ℕ) := by
    have : s.exponent ≤ 15 := h.2
    omega
  have hlt := value_lt_of_exponent hexp
  rwa [zpow_natCast] at hlt

theorem coefficient_numeral_lt (hs : s.Bounded) (b : Bool) :
    (Json.realStyle.numeral b s).coefficient < Decimal.coefficientBound := by
  by_cases hplain : Json.realStyle.IsPlain s
  · rcases lt_or_ge s.power 0 with hp | hp
    · rw [(RealStyle.numeral_of_neg b hplain hp).2.1]
      exact coefficient_lt hs
    · have hvalue := value_lt_of_isPlain hplain
      rw [value_of_nonneg hp] at hvalue
      have hnat : s.coefficient * 10 ^ s.power.toNat < 10 ^ 16 := by exact_mod_cast hvalue
      rw [(RealStyle.numeral_of_nonneg b hplain hp).2.1]
      calc s.coefficient * 10 ^ s.power.toNat * 10 < 10 ^ 16 * 10 :=
            Nat.mul_lt_mul_of_pos_right hnat (by decide)
        _ ≤ Decimal.coefficientBound := by decide
  · rw [(RealStyle.numeral_scientific b hplain).2.1]
    exact coefficient_lt hs

theorem places_numeral_le (hs : s.Bounded) (b : Bool) :
    (Json.realStyle.numeral b s).places ≤ Decimal.maxScale := by
  have hlength := length_digits_le hs
  by_cases hplain : Json.realStyle.IsPlain s
  · rcases lt_or_ge s.power 0 with hp | hp
    · have hlow : -5 ≤ s.exponent := hplain.1
      rw [(RealStyle.numeral_of_neg b hplain hp).2.2, Decimal.maxScale]
      unfold exponent at hlow
      omega
    · rw [(RealStyle.numeral_of_nonneg b hplain hp).2.2]
      decide
  · rw [(RealStyle.numeral_scientific b hplain).2.2, Decimal.maxScale]
    omega

theorem ofNumeral?_numeral (hs : s.Bounded) (b : Bool) :
    Decimal.ofNumeral? (Json.realStyle.numeral b s) =
      (Decimal.shifted? (Json.realStyle.numeral b s)).bind fun r =>
        Decimal.of? (if b then -(r.1 : ℤ) else r.1) r.2 := by
  rw [Decimal.ofNumeral?_eq (RealStyle.isDigit_numeral b (.inl rfl)) (coefficient_numeral_lt hs b)
    (places_numeral_le hs b), RealStyle.numeral_negative]

/-- A coefficient and a scale that fit and give the decimal rounded to 28 places. -/
structure Rounds (s : ShortDecimal) (c scale : ℕ) : Prop where
  coefficient_lt : c < Decimal.coefficientBound
  scale_le : scale ≤ Decimal.maxScale
  value_eq : (c : ℚ) / 10 ^ scale = roundPlaces Decimal.maxScale s.value
  dvd_of_nonneg : 0 ≤ s.power → 10 ^ scale ∣ c
  eq_of_neg : -28 ≤ s.power → s.power < 0 → c = s.coefficient ∧ scale = (-s.power).toNat

/-- The digits and places of the decimal itself. -/
theorem rounds_places (hs : s.Bounded) (hlow : -28 ≤ s.power) (hhigh : s.power ≤ 0) :
    s.Rounds s.coefficient (-s.power).toNat where
  coefficient_lt := coefficient_lt hs
  scale_le := by
    rw [Decimal.maxScale]
    omega
  value_eq := by rw [roundPlaces_value hlow, value_of_nonpos hhigh]
  dvd_of_nonneg := fun h => by
    rw [Int.toNat_of_nonpos (by omega), Nat.pow_zero]
    exact Nat.one_dvd _
  eq_of_neg := fun _ _ => ⟨rfl, rfl⟩

/-- The integer that the decimal is, with zeros after the point. -/
theorem rounds_zeros {c scale : ℕ} (hp : 0 ≤ s.power)
    (hc : c = s.coefficient * 10 ^ s.power.toNat * 10 ^ scale)
    (hlt : c < Decimal.coefficientBound) (hscale : scale ≤ Decimal.maxScale) : s.Rounds c scale where
  coefficient_lt := hlt
  scale_le := hscale
  value_eq := by
    rw [roundPlaces_value (by omega), value_of_nonneg hp, hc]
    push_cast
    exact mul_div_cancel_right₀ _ (by positivity)
  dvd_of_nonneg := fun _ => hc ▸ Nat.dvd_mul_left _ _
  eq_of_neg := fun _ h => by omega

theorem rounds_dropPlaces (hs : s.Bounded) (h : Decimal.maxScale < (-s.power).toNat) :
    s.Rounds (Decimal.dropPlaces s.coefficient ((-s.power).toNat - Decimal.maxScale))
      Decimal.maxScale := by
  have hfar : s.power < -28 := by
    unfold Decimal.maxScale at h
    omega
  refine ⟨Decimal.dropPlaces_lt (coefficient_lt hs) (by omega), le_rfl, ?_, fun h => by omega,
    fun h => by omega⟩
  rw [Decimal.dropPlaces_eq _ (by omega), ← value_mul_maxScale h, roundPlaces]

theorem exists_shifted? (hs : s.Bounded) (b : Bool) (hlow : -28 ≤ s.exponent)
    (hv : s.value < 2 ^ 96) :
    ∃ c scale, Decimal.shifted? (Json.realStyle.numeral b s) = some (c, scale) ∧
      s.Rounds c scale := by
  have hlength := length_digits_le hs
  have hpos := length_digitsOfNat_pos s.coefficient
  have hhigh := exponent_lt hs hv
  have hexp : s.exponent = ((digitsOfNat s.coefficient).length : ℤ) - 1 + s.power := rfl
  by_cases hplain : Json.realStyle.IsPlain s
  · rcases lt_or_ge s.power 0 with hp | hp
    · obtain ⟨he, hcoef, hplaces⟩ := RealStyle.numeral_of_neg b hplain hp
      have hmin : -5 ≤ s.exponent := hplain.1
      refine ⟨_, _, ?_, rounds_places hs (by omega) hp.le⟩
      rw [Decimal.shifted?, he, hcoef, hplaces]
    · obtain ⟨he, hcoef, hplaces⟩ := RealStyle.numeral_of_nonneg b hplain hp
      refine ⟨_, 1, by rw [Decimal.shifted?, he, hplaces],
        rounds_zeros hp hcoef (coefficient_numeral_lt hs b) (by decide)⟩
  · obtain ⟨he, hcoef, hplaces⟩ := RealStyle.numeral_scientific b hplain
    rw [Decimal.shifted?, he, hcoef, hplaces]
    dsimp only
    rcases lt_or_ge s.exponent 0 with hneg | hnonneg
    · have hscale : (digitsOfNat s.coefficient).length - 1 + s.exponent.natAbs =
          (-s.power).toNat := by omega
      rw [if_pos hneg, Decimal.shiftRight?, if_neg (by unfold Decimal.maxScale; omega), hscale]
      split
      · rename_i hlong
        exact ⟨_, _, rfl, rounds_dropPlaces hs hlong⟩
      · rename_i hshort
        unfold Decimal.maxScale at hshort
        exact ⟨_, _, rfl, rounds_places hs (by omega) (by omega)⟩
    · rw [if_neg (by omega), Decimal.shiftLeft?]
      by_cases hshort : s.exponent.natAbs ≤ (digitsOfNat s.coefficient).length - 1
      · have hscale : (digitsOfNat s.coefficient).length - 1 - s.exponent.natAbs =
            (-s.power).toNat := by omega
        rw [if_pos hshort, hscale]
        exact ⟨_, _, rfl, rounds_places hs (by omega) (by omega)⟩
      · have hzeros : s.exponent.natAbs - ((digitsOfNat s.coefficient).length - 1) =
            s.power.toNat := by omega
        rw [if_neg hshort, if_neg (by unfold Decimal.maxScale; omega), hzeros]
        rw [value_of_nonneg (by omega)] at hv
        refine ⟨_, _, rfl, rounds_zeros (by omega) ?_ (by exact_mod_cast hv) (Nat.zero_le _)⟩
        rw [Nat.pow_zero, Nat.mul_one]

theorem exists_ofNumeral? (hs : s.Bounded) (b : Bool) (hlow : -28 ≤ s.exponent)
    (hv : s.value < 2 ^ 96) :
    ∃ d, Decimal.ofNumeral? (Json.realStyle.numeral b s) = some d ∧
      d.value = signed b (roundPlaces Decimal.maxScale s.value) ∧
      s.Rounds d.coefficient.natAbs d.scale := by
  obtain ⟨c, scale, hshift, hrounds⟩ := exists_shifted? hs b hlow hv
  obtain ⟨d, hd, rfl, rfl, hvalue⟩ :=
    Decimal.exists_of? b hrounds.coefficient_lt hrounds.scale_le
  refine ⟨d, ?_, by rw [hvalue, hrounds.value_eq], hrounds⟩
  rw [ofNumeral?_numeral hs, hshift, Option.bind_some, hd]

/-- Far down, or beyond 96 bits, the rounding reader gives up. -/
theorem ofNumeral?_eq_none (hs : s.Bounded) (b : Bool)
    (h : s.exponent < -28 ∨ 2 ^ 96 ≤ s.value) :
    Decimal.ofNumeral? (Json.realStyle.numeral b s) = none := by
  have hlength := length_digits_le hs
  have hpos := length_digitsOfNat_pos s.coefficient
  have hexp : s.exponent = ((digitsOfNat s.coefficient).length : ℤ) - 1 + s.power := rfl
  have hplain : ¬Json.realStyle.IsPlain s := by
    intro hplain
    have hlow : -5 ≤ s.exponent := hplain.1
    have hvalue := value_lt_of_isPlain hplain
    have hpow : (10 : ℚ) ^ 16 ≤ 2 ^ 96 := by norm_num
    rcases h with h | h
    · omega
    · linarith
  obtain ⟨he, hcoef, hplaces⟩ := RealStyle.numeral_scientific b hplain
  rw [ofNumeral?_numeral hs, Decimal.shifted?, he, hcoef, hplaces]
  dsimp only
  rcases lt_or_ge s.exponent 0 with hneg | hnonneg
  · have hfar : s.exponent < -28 := by
      refine h.resolve_right fun hvalue => ?_
      have hlow := value_lt_of_exponent hneg
      rw [zpow_zero] at hlow
      linarith
    rw [if_pos hneg, Decimal.shiftRight?, if_pos (by unfold Decimal.maxScale; omega)]
    rfl
  · have hvalue : 2 ^ 96 ≤ s.value := h.resolve_left (by omega)
    have hp := power_pos_of_le hs hvalue
    have hzeros : s.exponent.natAbs - ((digitsOfNat s.coefficient).length - 1) =
        s.power.toNat := by omega
    rw [value_of_nonneg hp.le] at hvalue
    rw [if_neg (by omega), Decimal.shiftLeft?, if_neg (by omega), hzeros]
    split
    · rfl
    · exact Decimal.of?_of_le _ 0 (by exact_mod_cast hvalue)

/-- Beyond the 64th place, or beyond 96 bits, the cutting reader gives up. -/
theorem decimal?_eq_none (b : Bool) (h : s.exponent < -64 ∨ 2 ^ 96 ≤ s.value) :
    (Json.realStyle.numeral b s).decimal? = none := by
  rcases h with h | h
  · have hplain : ¬Json.realStyle.IsPlain s := by
      intro hplain
      have hlow : -5 ≤ s.exponent := hplain.1
      omega
    refine Numeral.decimal?_of_exponent ?_
    rw [(RealStyle.numeral_scientific b hplain).1, Option.getD_some, Numeral.maxExactExponent]
    omega
  · refine Numeral.decimal?_of_le ?_
    rwa [RealStyle.magnitude_numeral]

theorem exists_decimal? (hs : s.Bounded) (b : Bool) (hlow : -64 ≤ s.exponent)
    (hv : s.value < 2 ^ 96) :
    ∃ d, (Json.realStyle.numeral b s).decimal? = some d ∧
      d.value = cut Decimal.maxScale (signed b s.value) := by
  have hhigh := exponent_lt hs hv
  have hexponent : ((Json.realStyle.numeral b s).exponent.getD 0).natAbs ≤
      Numeral.maxExactExponent := by
    by_cases hplain : Json.realStyle.IsPlain s
    · rcases lt_or_ge s.power 0 with hp | hp
      · rw [(RealStyle.numeral_of_neg b hplain hp).1]
        decide
      · rw [(RealStyle.numeral_of_nonneg b hplain hp).1]
        decide
    · rw [(RealStyle.numeral_scientific b hplain).1, Option.getD_some, Numeral.maxExactExponent]
      omega
  obtain ⟨d, hd⟩ := Numeral.exists_decimal? hexponent (coefficient_numeral_lt hs b)
    (by rwa [RealStyle.magnitude_numeral])
  refine ⟨d, hd, ?_⟩
  rw [Numeral.value_of_decimal? hd, Numeral.value, RealStyle.magnitude_numeral,
    RealStyle.numeral_negative]

end Questionnaire.Number.ShortDecimal
