import Questionnaire.Proofs.Number.Approximation

namespace Questionnaire.Number

open Binary64

theorem Binary64.nearest_of_nonpos {x : ℚ} (h : x ≤ 0) : nearest x = 0 := by
  rw [nearest, nearestUnits_of_nonpos (mul_nonpos_of_nonpos_of_nonneg h cast_one_pos.le), amount_eq_zero]

/-- The number that is nearest to a rational of any sign. -/
def Binary64.rounded (x : ℚ) : ℚ := nearest x - nearest (-x)

theorem Binary64.rounded_mono {x y : ℚ} (h : x ≤ y) : rounded x ≤ rounded y :=
  sub_le_sub (nearest_mono h) (nearest_mono (neg_le_neg h))

theorem Binary64.rounded_signed {x : ℚ} (h : 0 ≤ x) (b : Bool) :
    rounded (signed b x) = signed b (nearest x) := by
  have hneg : nearest (-x) = 0 := nearest_of_nonpos (by linarith)
  cases b <;> simp [rounded, signed, hneg]

theorem Binary64.rounded_intCast {i : ℤ} (h : 0 ≤ i) : rounded i = nearest i.toNat := by
  obtain ⟨n, rfl⟩ := Int.eq_ofNat_of_zero_le h
  have hneg : nearest (-(n : ℚ)) = 0 := nearest_of_nonpos (by simp)
  rw [Int.toNat_natCast, rounded, Int.cast_natCast, hneg, sub_zero]

theorem Finite64.rounded_value (f : Finite64) : rounded f.value = f.value := by
  have hvalue : f.value = signed f.negative (amount f.magnitude.units) := f.value_eq_signed
  rw [hvalue, rounded_signed (amount_nonneg _), nearest_amount f.magnitude.onGrid]

theorem Finite64.value_eq_zero {x : Finite64} : x.value = 0 ↔ x.magnitude.units = 0 := by
  have hvalue : x.value = signed x.negative (amount x.magnitude.units) := x.value_eq_signed
  rw [hvalue, ← amount_eq_zero, signed]
  split
  · exact neg_eq_zero
  · rfl

/-- The numeral that makes up a text, with ASCII blanks around it. -/
def Numeral.ofText? (s : String) : Option Numeral :=
  ofChars? (Text.strip Text.isAsciiBlank s.toList)

theorem Reading.ofText?_eq (s : String) : ofText? s = (Numeral.ofText? s).bind Numeral.reading? := rfl

def Reading.isExact : Reading → Bool
  | .exact _ => true
  | .approximate _ => false

theorem Numeral.isDigit_of_ofText? {s : String} {n : Numeral} (h : ofText? s = some n) :
    ∀ c ∈ n.digits, isDigit c :=
  isDigit_of_ofChars? h

/-- A reading is the number of the numeral, cut or rounded. -/
theorem Numeral.reading?_cases {n : Numeral} {x : Reading} (hd : ∀ c ∈ n.digits, isDigit c)
    (h : n.reading? = some x) :
    (∃ d : Decimal, x = .exact d ∧ d.value = cut Decimal.maxScale n.value) ∨
      ∃ f : Finite64, x = .approximate (.finite f) ∧ f.value = rounded n.value := by
  unfold reading? at h
  split at h
  · rename_i d hdec
    cases h
    exact .inl ⟨d, rfl, value_of_decimal? hdec⟩
  · split at h
    · rename_i hfinite
      cases h
      cases hb : n.toBinary64 with
      | finite f =>
        obtain ⟨hsign, hunits⟩ := eq_of_toBinary64 hd hb
        refine .inr ⟨f, rfl, ?_⟩
        rw [f.value_eq_signed, hsign, hunits, Numeral.value, rounded_signed n.magnitude_nonneg]
        rfl
      | nan => simp [hb, isFinite] at hfinite
      | infinite b => simp [hb, isFinite] at hfinite
    · cases h

/-- The approximation of a decimal is off by a 2^49th of it at most. -/
theorem Decimal.toBinary64_close (d : Decimal) :
    ∃ f : Finite64, d.toBinary64 = .finite f ∧ |f.value - d.value| ≤ |d.value| / 2 ^ 49 := by
  obtain ⟨f, hf, hvalue⟩ := d.toBinary64_eq_finite
  have hclose : Close 16 _ _ := close_approximateUnits (n := d.coefficient.natAbs) d.scale_le
  refine ⟨f, hf, ?_⟩
  rw [hvalue, d.value_eq_signed, abs_signed_sub, abs_signed (by positivity)]
  calc _ ≤ 16 / 2 ^ 53 * ((d.coefficient.natAbs : ℚ) / 10 ^ d.scale) := hclose
    _ = (d.coefficient.natAbs : ℚ) / 10 ^ d.scale / 2 ^ 49 := by ring

/-- A decimal without places, or with few digits and places, has the nearest number as its
approximation. -/
theorem Decimal.toBinary64_rounded {d : Decimal}
    (h : 10 ^ d.scale ∣ d.coefficient.natAbs ∨ (d.coefficient.natAbs < 10 ^ 15 ∧ d.scale ≤ 22)) :
    ∃ f : Finite64, d.toBinary64 = .finite f ∧ f.value = rounded d.value := by
  obtain ⟨f, hf, hvalue⟩ := d.toBinary64_eq_finite
  have hamount : amount (approximateUnits d.coefficient.natAbs d.scale) =
      nearest (d.coefficient.natAbs / 10 ^ d.scale) := by
    rcases h with hdvd | ⟨hdigits, hscale⟩
    · have hmod := Nat.mod_eq_zero_of_dvd hdvd
      rw [amount_approximateUnits_of_dvd hmod, natCast_div_of_dvd hmod]
    · exact amount_approximateUnits_of_lt hdigits hscale
  refine ⟨f, hf, ?_⟩
  rw [hvalue, hamount, d.value_eq_signed, rounded_signed (by positivity)]

theorem Decimal.compare_self (d : Decimal) : d.compare d = .eq :=
  compare_eq_iff_eq.mpr rfl

theorem Decimal.compare_swap (x y : Decimal) : (x.compare y).swap = y.compare x :=
  Int.compare_swap _ _

theorem Decimal.toBinary64_ne_nan (d : Decimal) : d.toBinary64 ≠ .nan := by
  obtain ⟨f, hf, -⟩ := d.toBinary64_eq_finite
  rw [hf]
  exact nofun

theorem Binary64.compare?_self {x : Binary64} (h : x ≠ .nan) : x.compare? x = some .eq := by
  cases x with
  | nan => exact absurd rfl h
  | infinite b => simp [compare?]
  | finite f => rw [Finite64.compare?_eq, compare_eq_iff_eq.mpr rfl]

theorem Binary64.compare?_swap (x y : Binary64) : (x.compare? y).map .swap = y.compare? x := by
  cases x with
  | nan => cases y <;> rfl
  | infinite a =>
    cases y with
    | nan => rfl
    | infinite b => cases a <;> cases b <;> rfl
    | finite y => cases a <;> rfl
  | finite x =>
    cases y with
    | nan => rfl
    | infinite b => cases b <;> rfl
    | finite y => exact congrArg some (Int.compare_swap _ _)

theorem Binary64.compare?_eq_none_iff {x y : Binary64} :
    x.compare? y = none ↔ x = .nan ∨ y = .nan := by
  cases x <;> cases y <;> simp [compare?]

namespace Reading

/-- The reading of what is not a number. -/
def IsNan (x : Reading) : Prop := x = .approximate .nan

theorem compare?_self {x : Reading} (h : ¬x.IsNan) : x.compare? x = some .eq := by
  cases x with
  | exact d => exact congrArg some d.compare_self
  | approximate b => exact Binary64.compare?_self fun hb => h (congrArg approximate hb)

theorem compare?_swap (x y : Reading) : (x.compare? y).map .swap = y.compare? x := by
  cases x with
  | exact d =>
    cases y with
    | exact e => exact congrArg some (d.compare_swap e)
    | approximate b => exact Binary64.compare?_swap _ _
  | approximate a => cases y <;> exact Binary64.compare?_swap _ _

theorem compare?_eq_none_iff {x y : Reading} : x.compare? y = none ↔ x.IsNan ∨ y.IsNan := by
  unfold IsNan
  cases x with
  | exact d =>
    cases y with
    | exact e => simp [compare?]
    | approximate b => simp [compare?, toBinary64, Binary64.compare?_eq_none_iff, d.toBinary64_ne_nan]
  | approximate a =>
    cases y with
    | exact e => simp [compare?, toBinary64, Binary64.compare?_eq_none_iff, e.toBinary64_ne_nan]
    | approximate b => simp [compare?, toBinary64, Binary64.compare?_eq_none_iff]

theorem not_isNan_of_ofText? {s : String} {x : Reading} (h : ofText? s = some x) : ¬x.IsNan := by
  rw [ofText?_eq] at h
  obtain ⟨n, hn, hx⟩ := Option.bind_eq_some_iff.mp h
  rcases n.reading?_cases (Numeral.isDigit_of_ofText? hn) hx with ⟨d, rfl, -⟩ | ⟨f, rfl, -⟩
  · exact nofun
  · exact nofun

end Reading

namespace OrderTest

/-- The test for the operands in the other order. -/
def flip : OrderTest → OrderTest
  | .greater => .less
  | .less => .greater
  | .greaterOrEqual => .lessOrEqual
  | .lessOrEqual => .greaterOrEqual

theorem flip_holds_swap (test : OrderTest) (o : Ordering) :
    test.flip.holds o.swap = test.holds o := by
  cases test <;> cases o <;> rfl

/-- What the test says of two rationals. -/
def Relates : OrderTest → ℚ → ℚ → Prop
  | .greater, x, y => y < x
  | .less, x, y => x < y
  | .greaterOrEqual, x, y => y ≤ x
  | .lessOrEqual, x, y => x ≤ y

theorem holds_compare_iff (test : OrderTest) (x y : ℚ) :
    test.holds (compare x y) = true ↔ test.Relates x y := by
  rcases lt_trichotomy x y with h | rfl | h
  · rw [compare_lt_iff_lt.mpr h]
    cases test <;> simp [holds, Relates, h, h.le, h.not_gt]
  · rw [compare_eq_iff_eq.mpr rfl]
    cases test <;> simp [holds, Relates]
  · rw [compare_gt_iff_gt.mpr h]
    cases test <;> simp [holds, Relates, h, h.le, h.not_gt]

theorem Relates.trans {test : OrderTest} {x y z : ℚ} (hxy : test.Relates x y)
    (hyz : test.Relates y z) : test.Relates x z := by
  cases test with
  | greater => exact lt_trans hyz hxy
  | less => exact lt_trans hxy hyz
  | greaterOrEqual => exact le_trans hyz hxy
  | lessOrEqual => exact le_trans hxy hyz

end OrderTest

end Questionnaire.Number
