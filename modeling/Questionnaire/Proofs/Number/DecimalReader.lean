import Questionnaire.Proofs.Number.Approximation

namespace Questionnaire.Number

/-- The number rounded to some decimal places, a five up. -/
def roundPlaces (places : ℕ) (x : ℚ) : ℚ := (⌊x * 10 ^ places + 1 / 2⌋₊ : ℕ) / 10 ^ places

theorem roundPlaces_eq {places : ℕ} {x : ℚ} {n : ℕ} (h : x * 10 ^ places = n) :
    roundPlaces places x = x := by
  have hfloor : ⌊(n : ℚ) + 1 / 2⌋₊ = n := by
    rw [Nat.floor_eq_iff (by positivity)]
    constructor <;> linarith
  rw [roundPlaces, h, hfloor, ← h, mul_div_cancel_right₀ _ (by positivity)]

namespace Decimal

theorem exists_of? (b : Bool) {c s : ℕ} (hc : c < coefficientBound) (hs : s ≤ maxScale) :
    ∃ d : Decimal, of? (if b then -(c : ℤ) else c) s = some d ∧ d.coefficient.natAbs = c ∧
      d.scale = s ∧ d.value = signed b (c / 10 ^ s) := by
  have habs : (if b then -(c : ℤ) else c).natAbs = c := by cases b <;> simp
  refine ⟨⟨if b then -(c : ℤ) else c, s, by rwa [habs], hs⟩, ?_, habs, rfl, ?_⟩
  · rw [of?_eq_some_iff]
    exact ⟨rfl, rfl⟩
  · rw [value, signed_div, signed_natCast]

theorem of?_of_le (b : Bool) {c : ℕ} (s : ℕ) (hc : coefficientBound ≤ c) :
    of? (if b then -(c : ℤ) else c) s = none := by
  have habs : (if b then -(c : ℤ) else c).natAbs = c := by cases b <;> simp
  rw [of?, dif_neg]
  rw [habs]
  exact fun h => absurd h.1 (Nat.not_lt.mpr hc)

theorem abs_value_lt (d : Decimal) : |d.value| < 2 ^ 96 := by
  have hone : (1 : ℚ) ≤ 10 ^ d.scale := one_le_pow₀ (by norm_num)
  have hc : (d.coefficient.natAbs : ℚ) < 2 ^ 96 := by exact_mod_cast d.coefficient_lt
  rw [d.value_eq_signed, abs_signed (by positivity), div_lt_iff₀ (by positivity)]
  calc (d.coefficient.natAbs : ℚ) < 2 ^ 96 * 1 := by rwa [mul_one]
    _ ≤ 2 ^ 96 * 10 ^ d.scale := by gcongr

theorem takePlaces?_eq {c scale : ℕ} {ds : List Char} (hd : ∀ d ∈ ds, isDigit d)
    (hs : scale + ds.length ≤ maxScale)
    (hc : c * 10 ^ ds.length + natOfDigits ds < coefficientBound) :
    takePlaces? c scale ds = some (c * 10 ^ ds.length + natOfDigits ds, scale + ds.length) := by
  induction ds generalizing c scale with
  | nil => simp [takePlaces?]
  | cons d ds ih =>
    have hcons : natOfDigits (d :: ds) = digitValue d * 10 ^ ds.length + natOfDigits ds := by
      have happ := natOfDigits_append [d] ds
      rwa [List.singleton_append, show natOfDigits [d] = digitValue d by simp [natOfDigits]] at happ
    have hsplit : c * 10 ^ (d :: ds).length + natOfDigits (d :: ds) =
        (10 * c + digitValue d) * 10 ^ ds.length + natOfDigits ds := by
      rw [hcons, List.length_cons, Nat.pow_succ]
      ring
    rw [hsplit] at hc
    rw [List.length_cons] at hs
    have hfits : 10 * c + digitValue d < coefficientBound :=
      ((Nat.le_mul_of_pos_right _ (Nat.pow_pos (by decide))).trans (Nat.le_add_right _ _)).trans_lt hc
    rw [takePlaces?, if_pos ⟨by omega, hfits⟩,
      ih (fun e he => hd e (List.mem_cons_of_mem _ he)) (by omega) hc, hsplit, List.length_cons,
      Nat.add_assoc, Nat.add_comm 1]

/-- The coefficient and the scale after the power of ten has been applied. -/
def shifted? (n : Numeral) : Option (ℕ × ℕ) :=
  match n.exponent with
  | none => some (n.coefficient, n.places)
  | some e =>
    if e < 0 then shiftRight? n.coefficient n.places e.natAbs
    else shiftLeft? n.coefficient n.places e.natAbs

theorem ofNumeral?_eq {n : Numeral} (hd : ∀ c ∈ n.digits, isDigit c)
    (hc : n.coefficient < coefficientBound) (hp : n.places ≤ maxScale) :
    ofNumeral? n =
      (shifted? n).bind fun r => of? (if n.negative then -(r.1 : ℤ) else r.1) r.2 := by
  have hsplit : n.coefficient =
      natOfDigits n.whole * 10 ^ n.places + natOfDigits (n.fraction.getD []) :=
    natOfDigits_append _ _
  have hwhole : ¬coefficientBound ≤ natOfDigits n.whole := by
    rw [hsplit] at hc
    have hle : natOfDigits n.whole ≤ natOfDigits n.whole * 10 ^ n.places :=
      Nat.le_mul_of_pos_right _ (Nat.pow_pos (by decide))
    omega
  have htake : takePlaces? (natOfDigits n.whole) 0 (n.fraction.getD []) =
      some (n.coefficient, n.places) := by
    have hplaces : (n.fraction.getD []).length = n.places := rfl
    rw [takePlaces?_eq (fun c hm => hd c (List.mem_append_right _ hm)) (by omega)
      (by rw [hplaces, ← hsplit]; exact hc), hplaces, ← hsplit, Nat.zero_add]
  unfold ofNumeral? shifted?
  simp only [if_neg hwhole, htake, Option.bind_eq_bind, Option.bind_some]
  cases n.exponent with
  | none => rfl
  | some e =>
    dsimp only
    split <;> rfl

/-- Dropping places rounds a half up. -/
theorem dropPlaces_eq (c : ℕ) {k : ℕ} (hk : 0 < k) :
    dropPlaces c k = ⌊(c : ℚ) / 10 ^ k + 1 / 2⌋₊ := by
  have h2 : 2 ∣ 10 ^ k := Dvd.dvd.pow (by decide) hk.ne'
  have h := Binary64.add_half_div c (Nat.pow_pos (n := k) (by decide : 0 < 10)) h2
  push_cast at h
  exact h

theorem dropPlaces_lt {c k : ℕ} (h : c < coefficientBound) (hk : 0 < k) :
    dropPlaces c k < coefficientBound := by
  have hten : 2 * (10 ^ k / 2) = 10 ^ k := Nat.mul_div_cancel' (Dvd.dvd.pow (by decide) hk.ne')
  have hge : 10 ≤ 10 ^ k := Nat.le_self_pow hk.ne' 10
  rw [dropPlaces, Nat.div_lt_iff_lt_mul (by omega)]
  have hmul : coefficientBound * 10 ≤ coefficientBound * 10 ^ k := Nat.mul_le_mul_left _ hge
  have hmul' : coefficientBound * 10 ^ k = coefficientBound * (10 ^ k / 2) * 2 := by
    rw [Nat.mul_assoc, Nat.mul_comm (10 ^ k / 2), hten]
  have hone : 10 ^ k / 2 ≤ coefficientBound * (10 ^ k / 2) :=
    Nat.le_mul_of_pos_left _ (by decide)
  omega

end Decimal

namespace Numeral

theorem decimal?_of_le {n : Numeral} (h : 2 ^ 96 ≤ n.magnitude) : n.decimal? = none := by
  cases hd : n.decimal? with
  | none => rfl
  | some d =>
    have hvalue := value_of_decimal? hd
    have hlt := d.abs_value_lt
    have hfloor : (2 : ℚ) ^ 96 * 10 ^ Decimal.maxScale ≤ ⌊n.magnitude * 10 ^ Decimal.maxScale⌋₊ := by
      have hcast : ((2 ^ 96 * 10 ^ Decimal.maxScale : ℕ) : ℚ) = 2 ^ 96 * 10 ^ Decimal.maxScale := by
        norm_cast
      rw [← hcast, Nat.cast_le]
      refine Nat.le_floor ?_
      rw [hcast]
      exact mul_le_mul_of_nonneg_right h (by positivity)
    rw [hvalue, Numeral.value, cut_signed _ n.magnitude_nonneg, abs_signed (by positivity),
      div_lt_iff₀ (by positivity)] at hlt
    linarith

theorem decimal?_of_exponent {n : Numeral} (h : maxExactExponent < (n.exponent.getD 0).natAbs) :
    n.decimal? = none :=
  if_pos (.inl h)

theorem exists_decimal? {n : Numeral} (he : (n.exponent.getD 0).natAbs ≤ maxExactExponent)
    (hc : n.coefficient < Decimal.coefficientBound) (hm : n.magnitude < 2 ^ 96) :
    ∃ d, n.decimal? = some d := by
  have hlimit : ¬(maxExactExponent < (n.exponent.getD 0).natAbs ∨
      coefficientLimit ≤ n.coefficient) := by
    have hbound : Decimal.coefficientBound ≤ coefficientLimit :=
      Nat.pow_le_pow_right (by decide) (by decide)
    omega
  have hfits : n.coefficient * 10 ^ n.power.toNat / 10 ^ ((-n.power).toNat - Decimal.maxScale) <
      Decimal.coefficientBound := by
    refine (Nat.div_le_self _ _).trans_lt ?_
    rcases Int.le_total n.power 0 with hp | hp
    · rwa [Int.toNat_of_nonpos hp, Nat.pow_zero, Nat.mul_one]
    · rw [magnitude_eq, Int.toNat_of_nonpos (by omega : -n.power ≤ 0), Nat.pow_zero, Nat.cast_one,
        div_one] at hm
      exact_mod_cast hm
  obtain ⟨d, hd, -⟩ := Decimal.exists_of? n.negative hfits (Nat.min_le_right (-n.power).toNat _)
  exact ⟨d, (if_neg hlimit).trans hd⟩

end Numeral

end Questionnaire.Number
