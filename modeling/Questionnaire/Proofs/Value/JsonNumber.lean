import Questionnaire.Proofs.Json.NumberText
import Questionnaire.Proofs.Value.Comparison

namespace Questionnaire

open Number

namespace Number

theorem Finite64.value_eq_rounded {x : Finite64} {s : ShortDecimal}
    (h : x.magnitude.shortest? = some s) : x.value = Binary64.rounded (signed x.negative s.value) := by
  rw [Binary64.rounded_signed s.value_nonneg, Binary64.Magnitude.nearest_of_shortest? h]
  exact x.value_eq_signed

end Number

namespace Json.Number

/-- The number that a JSON number stands for. -/
def value : Json.Number → ℚ
  | .integer i _ => i
  | .real x => x.value

end Json.Number

namespace Value

theorem ofNumber_word {i : ℤ} (h : Json.minInteger ≤ i ∧ i ≤ Json.maxInteger)
    (hword : -2 ^ 63 ≤ i ∧ i < 2 ^ 63) : ofNumber (.integer i h) = .int (Int64.ofInt i) :=
  if_pos hword

/-- A real number whose text no decimal holds is kept as it is. -/
theorem ofNumber_real (x : Finite64) :
    ofNumber (.real x) =
      ((Decimal.ofText? (Json.Number.real x).text).map Value.decimal).getD (.float (.finite x)) := by
  rw [ofNumber]
  cases Decimal.ofText? (Json.Number.real x).text <;> rfl

theorem ofNumber_integer_decimal {i : ℤ} (h : Json.minInteger ≤ i ∧ i ≤ Json.maxInteger)
    (hword : ¬(-2 ^ 63 ≤ i ∧ i < 2 ^ 63)) :
    ∃ d, ofNumber (.integer i h) = .decimal d ∧ d.value = i ∧ d.scale = 0 := by
  obtain ⟨d, hread, -, hd⟩ := Json.exists_decimal_integer h
  refine ⟨d, ?_, hd⟩
  rw [ofNumber, if_neg hword, (Json.writes_integer i h).decimal_ofText?, hread]

theorem reading?_integer (i : ℤ) (h : Json.minInteger ≤ i ∧ i ≤ Json.maxInteger) :
    ∃ d e : Decimal, (ofNumber (.integer i h)).reading? = some (.exact d) ∧ d.value = i ∧
      (Value.text (Json.Number.integer i h).text).reading? = some (.exact e) ∧ e.value = i := by
  obtain ⟨e, -, hdec, hvalue, -⟩ := Json.exists_decimal_integer h
  have htext : (Value.text (Json.Number.integer i h).text).reading? = some (.exact e) := by
    rw [reading?_text (Json.writes_integer i h).2, Numeral.reading?, hdec]
  by_cases hword : -2 ^ 63 ≤ i ∧ i < 2 ^ 63
  · refine ⟨Decimal.ofInt64 (Int64.ofInt i), e, ?_, ?_, htext, hvalue⟩
    · rw [ofNumber_word h hword, reading?]
    · rw [Decimal.value_ofInt64, Int64.toInt_ofInt_of_le hword.1 hword.2]
  · obtain ⟨d, hd, hdvalue, -⟩ := ofNumber_integer_decimal h hword
    exact ⟨d, e, by rw [hd, reading?], hdvalue, htext, hvalue⟩

section

variable {x : Finite64} {s : ShortDecimal} (h : x.magnitude.shortest? = some s)

include h

theorem ofNumber_real_float (hs : s.exponent < -28 ∨ 2 ^ 96 ≤ s.value) :
    ofNumber (.real x) = .float (.finite x) := by
  have hread :=
    ShortDecimal.ofNumeral?_eq_none (Binary64.Magnitude.bounded_of_shortest? h) x.negative hs
  rw [ofNumber_real, (Json.writes_real h).decimal_ofText?, hread]
  rfl

theorem ofNumber_real_decimal (hlow : -28 ≤ s.exponent) (hv : s.value < 2 ^ 96) :
    ∃ d, ofNumber (.real x) = .decimal d ∧
      d.value = signed x.negative (roundPlaces Decimal.maxScale s.value) ∧
      s.Rounds d.coefficient.natAbs d.scale := by
  obtain ⟨d, hread, hd⟩ := ShortDecimal.exists_ofNumeral?
    (Binary64.Magnitude.bounded_of_shortest? h) x.negative hlow hv
  refine ⟨d, ?_, hd⟩
  rw [ofNumber_real, (Json.writes_real h).decimal_ofText?, hread]
  rfl

theorem reading?_real_float (hs : s.exponent < -28 ∨ 2 ^ 96 ≤ s.value) :
    (ofNumber (.real x)).reading? = some (.approximate (.finite x)) := by
  rw [ofNumber_real_float h hs, reading?]

theorem reading?_text_approximate (hs : s.exponent < -64 ∨ 2 ^ 96 ≤ s.value) :
    (Value.text (Json.Number.real x).text).reading? = some (.approximate (.finite x)) := by
  rw [reading?_text (Json.writes_real h).2, Numeral.reading?,
    ShortDecimal.decimal?_eq_none x.negative hs, Json.toBinary64_numeral h]
  rfl

theorem reading?_text_exact (hlow : -64 ≤ s.exponent) (hv : s.value < 2 ^ 96) :
    ∃ d, (Value.text (Json.Number.real x).text).reading? = some (.exact d) ∧
      d.value = cut Decimal.maxScale (signed x.negative s.value) := by
  obtain ⟨d, hdec, hd⟩ := ShortDecimal.exists_decimal?
    (Binary64.Magnitude.bounded_of_shortest? h) x.negative hlow hv
  refine ⟨d, ?_, hd⟩
  rw [reading?_text (Json.writes_real h).2, Numeral.reading?, hdec]

end

theorem compares_both_iff {l r : Value} {x y : Reading} (hx : l.reading? = some x)
    (hy : r.reading? = some y) :
    (compares .greaterOrEqual l r = true ∧ compares .lessOrEqual l r = true) ↔
      x.compare? y = some .eq := by
  rw [compares_of_readings hx hy, compares_of_readings hx hy]
  cases x.compare? y with
  | none => simp
  | some o => cases o <;> simp [OrderTest.holds]

theorem compares_decimals_iff {l r : Value} {d e : Decimal} (hd : l.reading? = some (.exact d))
    (he : r.reading? = some (.exact e)) :
    (compares .greaterOrEqual l r = true ∧ compares .lessOrEqual l r = true) ↔
      d.value = e.value := by
  rw [compares_both_iff hd he, Reading.compare?, Option.some_inj, d.compare_eq e,
    compare_eq_iff_eq]

/-- Cutting and rounding give the same places if the rest is below a half. -/
theorem roundPlaces_eq_cut_iff (b : Bool) {v : ℚ} (hv : 0 ≤ v) (places : ℕ) :
    signed b (roundPlaces places v) = cut places (signed b v) ↔
      Int.fract (v * 10 ^ places) < 1 / 2 := by
  have hp : (10 : ℚ) ^ places ≠ 0 := by positivity
  have hV : 0 ≤ v * 10 ^ places := by positivity
  rw [cut_signed places hv, roundPlaces, signed_inj, div_left_inj' hp, Nat.cast_inj,
    Nat.floor_eq_iff (by linarith), Int.fract, ← natCast_floor_eq_intCast_floor hV]
  have hle := Nat.floor_le hV
  constructor
  · rintro ⟨-, hlt⟩
    linarith
  · intro hlt
    constructor <;> linarith

end Value

/-- What makes a number and its text numerically equal. Integers always are. The text of a real
number reads as zero if its first digit is between the 29th and the 64th place, and otherwise its
places after the 28th are cut off, while those of the number are rounded, a five up. -/
def Json.Number.ReadsAlike : Json.Number → Prop
  | .integer _ _ => True
  | .real x => ∀ s, x.magnitude.shortest? = some s →
      s.value < 10 ^ (-64 : ℤ) ∨
        (10 ^ (-28 : ℤ) ≤ s.value ∧ Int.fract (s.value * 10 ^ Decimal.maxScale) < 1 / 2)

namespace Value

theorem compare?_finite_self (x : Finite64) :
    Reading.compare? (.approximate (.finite x)) (.approximate (.finite x)) = some .eq :=
  Reading.compare?_self nofun

theorem compare?_finite_zero {x : Finite64} {d : Decimal} (hx : x.value ≠ 0) (hd : d.value = 0) :
    Reading.compare? (.approximate (.finite x)) (.exact d) ≠ some .eq := by
  obtain ⟨f, hf, hclose⟩ := d.toBinary64_close
  rw [hd, sub_zero, abs_zero, zero_div] at hclose
  have hzero : f.value = 0 := abs_eq_zero.mp (le_antisymm hclose (abs_nonneg _))
  rw [Reading.compare?, Reading.toBinary64, Reading.toBinary64, hf, Finite64.compare?_eq, hzero, Ne,
    Option.some_inj, compare_eq_iff_eq]
  · exact hx
  · simp

section

variable {x : Finite64} {s : ShortDecimal} (h : x.magnitude.shortest? = some s)

include h

theorem value_ne_zero_of_shortest? : x.value ≠ 0 := fun h0 => by
  rw [Binary64.Magnitude.shortest?_eq_none.mpr (Finite64.value_eq_zero.mp h0)] at h
  cases h

/-- Beyond the decimals, and before the 64th place, the text is read as the number itself. -/
theorem compares_real_approximate (hs : s.exponent < -64 ∨ 2 ^ 96 ≤ s.value) :
    compares .greaterOrEqual (ofNumber (.real x)) (.text (Json.Number.real x).text) = true ∧
      compares .lessOrEqual (ofNumber (.real x)) (.text (Json.Number.real x).text) = true := by
  have hfloat : s.exponent < -28 ∨ 2 ^ 96 ≤ s.value := hs.imp_left fun hlt => by omega
  rw [compares_both_iff (reading?_real_float h hfloat) (reading?_text_approximate h hs)]
  exact compare?_finite_self x

/-- Between the 28th and the 64th place the text is read as zero, and the number is not. -/
theorem compares_real_small (hlow : -64 ≤ s.exponent) (hsmall : s.exponent < -28) :
    ¬(compares .greaterOrEqual (ofNumber (.real x)) (.text (Json.Number.real x).text) = true ∧
      compares .lessOrEqual (ofNumber (.real x)) (.text (Json.Number.real x).text) = true) := by
  have hs := Binary64.Magnitude.bounded_of_shortest? h
  have hlt : s.value < 10 ^ (-28 : ℤ) := (ShortDecimal.exponent_lt_iff hs (-28)).mp hsmall
  obtain ⟨e, htext, he⟩ := reading?_text_exact h hlow (hlt.trans (by norm_num))
  have hzero : e.value = 0 := by
    rw [he, cut_signed_eq_zero x.negative s.value_nonneg]
    calc s.value * 10 ^ Decimal.maxScale < 10 ^ (-28 : ℤ) * 10 ^ Decimal.maxScale := by gcongr
      _ = 1 := by
          rw [Decimal.maxScale]
          norm_num
  rw [compares_both_iff (reading?_real_float h (.inl hsmall)) htext]
  exact compare?_finite_zero (value_ne_zero_of_shortest? h) hzero

/-- Within the decimals the number is rounded to 28 places, and the text is cut to them. -/
theorem compares_real_decimal (hlow : -28 ≤ s.exponent) (hv : s.value < 2 ^ 96) :
    (compares .greaterOrEqual (ofNumber (.real x)) (.text (Json.Number.real x).text) = true ∧
      compares .lessOrEqual (ofNumber (.real x)) (.text (Json.Number.real x).text) = true) ↔
    Int.fract (s.value * 10 ^ Decimal.maxScale) < 1 / 2 := by
  obtain ⟨d, hd, hvalue, -⟩ := ofNumber_real_decimal h hlow hv
  obtain ⟨e, htext, he⟩ := reading?_text_exact h (by omega) hv
  have hnumber : (ofNumber (.real x)).reading? = some (.exact d) := by rw [hd, reading?]
  rw [compares_decimals_iff hnumber htext, hvalue, he, roundPlaces_eq_cut_iff _ s.value_nonneg]

theorem compares_real_iff :
    (compares .greaterOrEqual (ofNumber (.real x)) (.text (Json.Number.real x).text) = true ∧
      compares .lessOrEqual (ofNumber (.real x)) (.text (Json.Number.real x).text) = true) ↔
    s.value < 10 ^ (-64 : ℤ) ∨
      (10 ^ (-28 : ℤ) ≤ s.value ∧ Int.fract (s.value * 10 ^ Decimal.maxScale) < 1 / 2) := by
  have hs := Binary64.Magnitude.bounded_of_shortest? h
  rw [← ShortDecimal.exponent_lt_iff hs, ← not_lt, ← ShortDecimal.exponent_lt_iff hs, not_lt]
  rcases lt_or_ge s.exponent (-64) with htiny | hlow
  · exact iff_of_true (compares_real_approximate h (.inl htiny)) (.inl htiny)
  rcases lt_or_ge s.exponent (-28) with hsmall | hhigh
  · exact iff_of_false (compares_real_small h hlow hsmall) (by omega)
  rw [or_iff_right (not_lt.mpr hlow), and_iff_right hhigh]
  rcases le_or_gt (2 ^ 96) s.value with hlarge | hv
  · refine iff_of_true (compares_real_approximate h (.inr hlarge)) ?_
    rw [ShortDecimal.fract_value_of_le hs hlarge]
    norm_num
  · exact compares_real_decimal h hhigh hv

end

/-- A number equals its own text, numerically, exactly in these cases. -/
theorem compares_ofNumber_text (n : Json.Number) :
    (compares .greaterOrEqual (ofNumber n) (.text n.text) = true ∧
      compares .lessOrEqual (ofNumber n) (.text n.text) = true) ↔ n.ReadsAlike := by
  cases n with
  | integer i h =>
    obtain ⟨d, e, hnumber, hd, htext, he⟩ := reading?_integer i h
    rw [compares_decimals_iff hnumber htext, hd, he]
    exact iff_of_true rfl trivial
  | real x =>
    cases hs : x.magnitude.shortest? with
    | none =>
      have hw := Json.writes_zero (Binary64.Magnitude.shortest?_eq_none.mp hs)
      obtain ⟨d, hread, hdec, -⟩ := Json.exists_decimal_zero x.negative
      have hnumber : (ofNumber (.real x)).reading? = some (.exact d) := by
        rw [ofNumber_real, hw.decimal_ofText?, hread]
        rfl
      have htext : (Value.text (Json.Number.real x).text).reading? = some (.exact d) := by
        rw [reading?_text hw.2, Numeral.reading?, hdec]
      rw [compares_decimals_iff hnumber htext]
      refine iff_of_true rfl fun s hsome => ?_
      rw [hs] at hsome
      cases hsome
    | some s =>
      rw [compares_real_iff hs]
      refine ⟨fun h t ht => ?_, fun h => h s hs⟩
      cases hs.symm.trans ht
      exact h

/-- The text of a small number reads as zero, although the number is positive. -/
theorem compares_ofNumber_text_small :
    ∃ x : Finite64, (Json.Number.real x).text = "3e-29" ∧
      compares .lessOrEqual (ofNumber (.real x)) (.text (Json.Number.real x).text) = false := by
  refine ⟨⟨false, ⟨5352178847647350 * 2 ^ 927, by decide +kernel, by decide +kernel⟩⟩,
    by decide +kernel, ?_⟩
  generalize hx : Finite64.mk false _ = x
  have hnumber : (ofNumber (.real x)).reading? = some (.approximate (.finite x)) := by
    subst hx
    decide +kernel
  have htext : (Value.text (Json.Number.real x).text).reading? =
      some (.exact ⟨0, 28, by decide, by decide⟩) := by
    subst hx
    decide +kernel
  have hgt : Reading.compare? (.approximate (.finite x)) (.exact ⟨0, 28, by decide, by decide⟩) =
      some .gt := by
    subst hx
    decide +kernel
  rw [compares_of_readings hnumber htext, hgt]
  rfl

end Value

end Questionnaire
