import Questionnaire.Proofs.Value.JsonNumber

namespace Questionnaire

open Number

/-- What makes a number come back as it was: an integer of 64 bits must have 53 significant ones,
the shortest decimal of a real number must have no places, or few digits and places, or no digit
within 28 places. -/
def Json.Number.Kept : Json.Number → Prop
  | .integer i _ => i < 2 ^ 63 ∨ 2 ^ 11 ∣ i
  | .real x => ∀ s, x.magnitude.shortest? = some s →
      0 ≤ s.power ∨ (s.coefficient < 10 ^ 15 ∧ -22 ≤ s.power) ∨ s.value < 10 ^ (-28 : ℤ)

namespace Value

theorem toJson_decimal {d : Decimal} {f : Finite64} (h : d.toBinary64 = .finite f) :
    (Value.decimal d).toJson = .number (.real f) := by
  rw [toJson, h]
  rfl

theorem toJson_integer (i : ℤ) (h : Json.minInteger ≤ i ∧ i ≤ Json.maxInteger) :
    ∃ m, (ofNumber (.integer i h)).toJson = .number m ∧
      (m.value = i ↔ i < 2 ^ 63 ∨ 2 ^ 11 ∣ i) := by
  by_cases hword : -2 ^ 63 ≤ i ∧ i < 2 ^ 63
  · refine ⟨_, by rw [ofNumber_word h hword, toJson, jsonOfInt64], ?_⟩
    rw [Json.Number.value, Int64.toInt_ofInt_of_le hword.1 hword.2]
    exact iff_of_true rfl (.inl hword.2)
  · have hlow : 2 ^ 63 ≤ i := by
      have := h.1
      unfold Json.minInteger at this
      omega
    have hhigh : i < 2 ^ 64 := by
      have := h.2
      unfold Json.maxInteger at this
      omega
    obtain ⟨n, rfl⟩ := Int.eq_ofNat_of_zero_le (by omega : 0 ≤ i)
    obtain ⟨d, hd, hvalue, hscale⟩ := ofNumber_integer_decimal h hword
    have hdvd : 10 ^ d.scale ∣ d.coefficient.natAbs := by
      rw [hscale, Nat.pow_zero]
      exact Nat.one_dvd _
    obtain ⟨f, hf, hrounded⟩ := Decimal.toBinary64_rounded (.inl hdvd)
    refine ⟨.real f, by rw [hd, toJson_decimal hf], ?_⟩
    rw [Json.Number.value, hrounded, hvalue, Binary64.rounded_intCast (by omega), Int.toNat_natCast,
      Int.cast_natCast, Binary64.nearest_natCast_iff_dvd (by omega) (by omega)]
    have hcast : ((2 ^ 11 : ℕ) : ℤ) ∣ (n : ℤ) ↔ 2 ^ 11 ∣ n := Int.natCast_dvd_natCast
    rw [← hcast]
    push_cast
    exact (or_iff_right (by omega)).symm

theorem toJson_real_zero {x : Finite64} (h : x.magnitude.units = 0) :
    ∃ f : Finite64, (ofNumber (.real x)).toJson = .number (.real f) ∧ f.value = x.value := by
  obtain ⟨d, hread, -, hzero⟩ := Json.exists_decimal_zero x.negative
  have hdvd : 10 ^ d.scale ∣ d.coefficient.natAbs := by
    rw [hzero]
    exact Nat.dvd_zero _
  obtain ⟨f, hf, hrounded⟩ := Decimal.toBinary64_rounded (.inl hdvd)
  refine ⟨f, ?_, ?_⟩
  · rw [ofNumber_real, (Json.writes_zero h).decimal_ofText?, hread]
    exact toJson_decimal hf
  · rw [hrounded, Decimal.value, hzero, Int.cast_zero, zero_div, Finite64.value_eq_zero.mpr h,
      Binary64.rounded, neg_zero, sub_self]

section

variable {x : Finite64} {s : ShortDecimal} (h : x.magnitude.shortest? = some s)

include h

/-- The decimal of a kept number has all its digits, and its approximation is the nearest number. -/
theorem exact_of_kept {d : Decimal} (hkept : (Json.Number.real x).Kept) (hlow : -28 ≤ s.exponent)
    (hrounds : s.Rounds d.coefficient.natAbs d.scale) :
    -28 ≤ s.power ∧ (10 ^ d.scale ∣ d.coefficient.natAbs ∨
      (d.coefficient.natAbs < 10 ^ 15 ∧ d.scale ≤ 22)) := by
  rcases hkept s h with hp | ⟨hdigits, hp⟩ | hsmall
  · exact ⟨by omega, .inl (hrounds.dvd_of_nonneg hp)⟩
  · refine ⟨by omega, ?_⟩
    rcases lt_or_ge s.power 0 with hneg | hp
    · obtain ⟨hcoef, hscale⟩ := hrounds.eq_of_neg (by omega) hneg
      rw [hcoef, hscale]
      exact .inr ⟨hdigits, by omega⟩
    · exact .inl (hrounds.dvd_of_nonneg hp)
  · have hs := Binary64.Magnitude.bounded_of_shortest? h
    exact absurd ((ShortDecimal.exponent_lt_iff hs _).mpr hsmall) (by omega)

theorem toJson_real_decimal (hlow : -28 ≤ s.exponent) (hv : s.value < 2 ^ 96) :
    ∃ f : Finite64, (ofNumber (.real x)).toJson = .number (.real f) ∧
      ((Json.Number.real x).Kept → f.value = x.value) := by
  obtain ⟨d, hd, hvalue, hrounds⟩ := ofNumber_real_decimal h hlow hv
  obtain ⟨f, hf, -⟩ := d.toBinary64_close
  refine ⟨f, by rw [hd, toJson_decimal hf], fun hkept => ?_⟩
  obtain ⟨hpower, hexact⟩ := exact_of_kept h hkept hlow hrounds
  obtain ⟨g, hg, hrounded⟩ := Decimal.toBinary64_rounded hexact
  cases hf.symm.trans hg
  rw [hrounded, hvalue, ShortDecimal.roundPlaces_value hpower, ← Finite64.value_eq_rounded h]

end

theorem toJson_real (x : Finite64) :
    ∃ f : Finite64, (ofNumber (.real x)).toJson = .number (.real f) ∧
      ((Json.Number.real x).Kept → f.value = x.value) := by
  cases h : x.magnitude.shortest? with
  | none =>
    obtain ⟨f, hf, hvalue⟩ := toJson_real_zero (Binary64.Magnitude.shortest?_eq_none.mp h)
    exact ⟨f, hf, fun _ => hvalue⟩
  | some s =>
    by_cases hfloat : s.exponent < -28 ∨ 2 ^ 96 ≤ s.value
    · exact ⟨x, by rw [ofNumber_real_float h hfloat]; rfl, fun _ => rfl⟩
    · rw [not_or, not_lt, not_le] at hfloat
      exact toJson_real_decimal h hfloat.1 hfloat.2

/-- A number comes back as a number, and in these cases as the same number. An integer comes back as
the same number in no other case. -/
theorem toJson_ofNumber (n : Json.Number) :
    ∃ m, (ofNumber n).toJson = .number m ∧ (n.Kept → m.value = n.value) ∧
      ∀ i h, n = .integer i h → m.value = n.value → n.Kept := by
  cases n with
  | integer i h =>
    obtain ⟨m, hm, hvalue⟩ := toJson_integer i h
    refine ⟨m, hm, hvalue.mpr, ?_⟩
    rintro _ _ - heq
    exact hvalue.mp heq
  | real x =>
    obtain ⟨f, hf, hvalue⟩ := toJson_real x
    refine ⟨.real f, hf, hvalue, ?_⟩
    intro i h heq
    cases heq

theorem toJson_ofNumber_quarter :
    ∃ (x : Finite64) (m : Json.Number), (Json.Number.real x).text = "0.25" ∧
      (ofNumber (.real x)).toJson = .number m ∧ m.value = x.value := by
  refine ⟨⟨false, ⟨2 ^ 1072, by decide +kernel, by decide +kernel⟩⟩, ?_⟩
  generalize hx : Finite64.mk false _ = x
  have htext : (Json.Number.real x).text = "0.25" := by
    subst hx
    decide +kernel
  have hshort : x.magnitude.shortest? = some ⟨25, -2⟩ := by
    subst hx
    decide +kernel
  obtain ⟨m, hm, hvalue, -⟩ := toJson_ofNumber (.real x)
  refine ⟨m, htext, hm, hvalue fun s hs => ?_⟩
  cases hshort.symm.trans hs
  exact .inr (.inl ⟨by decide, by decide⟩)

/-- An integer past the signed 64-bit range: it comes back as the power of two before it. -/
theorem toJson_ofNumber_pastSigned :
    ∃ m : Finite64,
      (ofNumber (.integer 9223372036854775809 (by decide))).toJson = .number (.real m) ∧
      (Json.Number.real m).text = "9.223372036854776e+18" ∧ m.value = 9223372036854775808 ∧
      m.value ≠ (Json.Number.integer 9223372036854775809 (by decide)).value := by
  generalize hm : Finite64.mk false ⟨2 ^ 63 * Binary64.one, by decide +kernel, by decide +kernel⟩ = m
  have hdecimal : Decimal.ofText? (Json.Number.integer 9223372036854775809 (by decide)).text =
      some ⟨9223372036854775809, 0, by decide, by decide⟩ := by
    decide +kernel
  have happrox : (Decimal.mk 9223372036854775809 0 (by decide) (by decide)).toBinary64 =
      .finite m := by
    subst hm
    decide +kernel
  have htext : (Json.Number.real m).text = "9.223372036854776e+18" := by
    subst hm
    decide +kernel
  have hvalue : m.value = 9223372036854775808 := by
    have hone : (Binary64.one : ℚ) ≠ 0 := Nat.cast_ne_zero.mpr Binary64.one_pos.ne'
    rw [Finite64.value_eq_signed, ← hm, signed, if_neg Bool.false_ne_true, Nat.cast_mul,
      mul_div_cancel_right₀ _ hone]
    norm_num
  refine ⟨m, ?_, htext, hvalue, ?_⟩
  · rw [ofNumber, if_neg (by decide), hdecimal]
    exact toJson_decimal happrox
  · rw [hvalue, Json.Number.value]
    norm_num

end Value

end Questionnaire
