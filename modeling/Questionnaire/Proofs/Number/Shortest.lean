import Questionnaire.Proofs.Number.Interval
import Questionnaire.Proofs.Number.Approximation

namespace Questionnaire.Number

def ShortDecimal.value (s : ShortDecimal) : ℚ := s.coefficient * 10 ^ s.power

/-- A positive coefficient of less than 58 bits. -/
structure ShortDecimal.Bounded (s : ShortDecimal) : Prop where
  pos : 0 < s.coefficient
  lt : s.coefficient < 2 ^ 58

namespace Binary64.Magnitude

/-- One step of the grid of a power of ten, in half units. -/
def step (power : Int) : ℚ := 2 * one * 10 ^ power

theorem step_pos (power : Int) : 0 < step power := by
  have := cast_one_pos
  unfold step
  positivity

theorem step_eq (power : Int) :
    step power = (2 * one * 10 ^ power.toNat : ℕ) / (10 ^ (-power).toNat : ℕ) := by
  rw [step, ten_zpow_eq]
  push_cast
  ring

/-- What the search at one power of ten gives lies in the interval. -/
theorem multiple?_spec {m : Magnitude} {power : Int} {s : ShortDecimal}
    (h : m.multiple? power = some s) :
    s.power = power ∧ 0 < s.coefficient ∧
      m.covers (s.coefficient * (2 * one * 10 ^ power.toNat)) (10 ^ (-power).toNat) := by
  unfold multiple? at h
  dsimp only at h
  generalize 2 * one * 10 ^ power.toNat = n at *
  split at h
  · cases h
  · rename_i hlow _
    cases h
    rw [Bool.and_eq_true, decide_eq_true_eq] at hlow
    exact ⟨rfl, hlow⟩
  · rename_i _ hhigh
    cases h
    exact ⟨rfl, Nat.succ_pos _, hhigh⟩
  · rename_i hlow hhigh
    cases h
    rw [Bool.and_eq_true, decide_eq_true_eq] at hlow
    refine ⟨rfl, ?_⟩
    dsimp only
    split
    · exact hlow
    · exact ⟨Nat.succ_pos _, hhigh⟩

theorem covers_of_lt {m : Magnitude} {n d : ℕ} (hlow : m.lowerEnd * d < n)
    (hhigh : n < m.upperEnd * d) : m.covers n d := by
  unfold covers
  split
  · simp [hlow.le, hhigh.le]
  · simp [hlow, hhigh]

theorem below_pos (m : Magnitude) : 0 < m.below := by
  unfold below
  dsimp only
  split <;> exact Nat.two_pow_pos _

/-- A grid that is finer than the interval has a multiple inside it. -/
theorem multiple?_of_step_lt {m : Magnitude} {power : Int} (hm : m.units ≠ 0)
    (h : 2 * one * 10 ^ power.toNat < 2 ^ spacing m.units * 10 ^ (-power).toNat) :
    (m.multiple? power).isSome := by
  have hn : 0 < 2 * one * 10 ^ power.toNat :=
    Nat.mul_pos (Nat.mul_pos (by decide) one_pos) (Nat.pow_pos (by decide))
  have hd : 0 < 10 ^ (-power).toNat := Nat.pow_pos (by decide)
  unfold multiple?
  dsimp only
  generalize 2 * one * 10 ^ power.toNat = n at *
  generalize 10 ^ (-power).toNat = d at *
  have hhigh : m.covers ((2 * m.units * d / n + 1) * n) d := by
    have hfloor : n * (2 * m.units * d / n) + 2 * m.units * d % n = 2 * m.units * d :=
      Nat.div_add_mod _ _
    have hrest := Nat.mod_lt (2 * m.units * d) hn
    have hmul : (2 * m.units * d / n + 1) * n = n * (2 * m.units * d / n) + n := by ring
    refine covers_of_lt ?_ ?_
    · have hbelow := m.below_pos
      have hlt : m.lowerEnd * d < 2 * m.units * d :=
        Nat.mul_lt_mul_of_pos_right (by unfold lowerEnd; omega) hd
      omega
    · have hend : m.upperEnd * d = 2 * m.units * d + 2 ^ spacing m.units * d := Nat.add_mul _ _ _
      omega
  rw [hhigh]
  generalize (decide (0 < 2 * m.units * d / n) && m.covers (2 * m.units * d / n * n) d) = low
  cases low <;> rfl

theorem coefficient_mul_step {m : Magnitude} {power : Int} {s : ShortDecimal}
    (h : m.multiple? power = some s) :
    s.coefficient * step power ≤ 2 * m.units + 2 ^ spacing m.units := by
  obtain ⟨-, -, hcovers⟩ := multiple?_spec h
  have hd : (0 : ℚ) < (10 ^ (-power).toNat : ℕ) := by positivity
  have hle : s.coefficient * (2 * one * 10 ^ power.toNat) ≤
      m.upperEnd * 10 ^ (-power).toNat := by
    unfold covers at hcovers
    split at hcovers
    · rw [Bool.and_eq_true, decide_eq_true_eq, decide_eq_true_eq] at hcovers
      exact hcovers.2
    · rw [Bool.and_eq_true, decide_eq_true_eq, decide_eq_true_eq] at hcovers
      exact hcovers.2.le
  have hend : (m.upperEnd : ℚ) = 2 * m.units + 2 ^ spacing m.units := by
    unfold upperEnd
    push_cast
    rfl
  rw [step_eq, ← hend, ← mul_div_assoc, div_le_iff₀ hd]
  generalize 2 * one * 10 ^ power.toNat = n at *
  exact_mod_cast hle

theorem nearest_of_multiple? {m : Magnitude} {power : Int} {s : ShortDecimal}
    (h : m.multiple? power = some s) : nearest s.value = amount m.units := by
  obtain ⟨hpower, -, hcovers⟩ := multiple?_spec h
  have hd : 0 < 10 ^ (-power).toNat := Nat.pow_pos (by decide)
  have hsnap := m.snap_of_covers hd hcovers
  rw [snap_eq_nearestUnits _ (by omega)] at hsnap
  rw [nearest, ← hsnap]
  congr 2
  rw [ShortDecimal.value, hpower, ten_zpow_eq]
  push_cast
  generalize (one : ℚ) = u
  field_simp

/-- The exponent where the search for a magnitude with this logarithm starts. -/
def searchTop (log : ℕ) : Int := ((log : Int) - 1073) * 30103 / 100000 + 1

/-- The first power of ten tried is not smaller than the magnitude, and the last one is smaller
than the spacing. -/
theorem search_range : ∀ log ∈ List.range 2098,
    2 ^ (log + 1) * 10 ^ (-searchTop log).toNat ≤ 2 * one * 10 ^ (searchTop log).toNat ∧
      2 * one * 10 ^ (searchTop log - 23).toNat <
        2 ^ (log - 52) * 10 ^ (-(searchTop log - 23)).toNat := by
  decide +kernel

theorem shortest?_eq {m : Magnitude} (hm : m.units ≠ 0) :
    m.shortest? =
      (List.range 24).findSome? fun (i : ℕ) => m.multiple? (searchTop m.units.log2 - i) :=
  if_neg hm

theorem log2_mem (m : Magnitude) : m.units.log2 ∈ List.range 2098 := by
  rw [List.mem_range]
  rcases Nat.eq_zero_or_pos m.units with h0 | hpos
  · rw [h0]
    decide
  · have hlimit := m.bounded
    rw [limit_eq] at hlimit
    have hlog : m.units.log2 < unitExponent + topExponent := (Nat.log2_lt (by omega)).mpr hlimit
    exact hlog

theorem exists_shortest? {m : Magnitude} (hm : m.units ≠ 0) : ∃ s, m.shortest? = some s := by
  rw [shortest?_eq hm, ← Option.isSome_iff_exists, List.findSome?_isSome_iff]
  exact ⟨23, by decide, multiple?_of_step_lt hm ((search_range _ m.log2_mem).2)⟩

theorem shortest?_eq_none {m : Magnitude} : m.shortest? = none ↔ m.units = 0 := by
  constructor
  · intro h
    by_contra hm
    obtain ⟨s, hs⟩ := exists_shortest? hm
    rw [h] at hs
    cases hs
  · exact fun hm => if_pos hm

/-- The search tries one power of ten after the other and takes the first that has a multiple. -/
theorem exists_power_of_shortest? {m : Magnitude} {s : ShortDecimal} (h : m.shortest? = some s) :
    m.multiple? s.power = some s ∧
      (s.power = searchTop m.units.log2 ∨ m.multiple? (s.power + 1) = none) := by
  have hm : m.units ≠ 0 := fun h0 => by
    rw [shortest?_eq_none.mpr h0] at h
    cases h
  rw [shortest?_eq hm, List.findSome?_eq_some_iff] at h
  obtain ⟨tried, i, rest, hrange, hs, hnone⟩ := h
  have hpower := (multiple?_spec hs).1
  refine ⟨by rw [hpower]; exact hs, ?_⟩
  cases i with
  | zero =>
    left
    rw [hpower]
    exact sub_zero _
  | succ j =>
    right
    have hlast : (List.range 24)[tried.length]? = some (j + 1) := by
      rw [hrange, List.getElem?_append_right le_rfl, Nat.sub_self, List.getElem?_cons_zero]
    obtain ⟨hlt, hlen⟩ := List.getElem?_eq_some_iff.mp hlast
    rw [List.getElem_range] at hlen
    rw [List.length_range] at hlt
    have hprev : (tried ++ (j + 1) :: rest)[j]? = some j := by
      rw [← hrange, List.getElem?_range (by omega)]
    rw [List.getElem?_append_left (by omega)] at hprev
    have hj := hnone j (List.mem_of_getElem? hprev)
    have he : s.power + 1 = searchTop m.units.log2 - j := by
      rw [hpower]
      push_cast
      ring
    rw [he]
    exact hj

theorem coefficient_lt_of_shortest? {m : Magnitude} {s : ShortDecimal} (h : m.shortest? = some s) :
    s.coefficient < 2 ^ 58 := by
  have hm : m.units ≠ 0 := fun h0 => by
    rw [shortest?_eq_none.mpr h0] at h
    cases h
  obtain ⟨hs, hpower⟩ := exists_power_of_shortest? h
  have hstep := step_pos s.power
  have hle := coefficient_mul_step hs
  suffices hend : (2 * m.units + 2 ^ spacing m.units : ℚ) < 2 ^ 58 * step s.power by
    exact_mod_cast lt_of_mul_lt_mul_right (hle.trans_lt hend) hstep.le
  rcases hpower with hfirst | hnone
  · have hspacing : (2 : ℚ) ^ spacing m.units ≤ m.units := by
      have hpos : 2 ^ spacing m.units ≤ m.units := Nat.le_of_dvd (by omega) m.onGrid
      exact_mod_cast hpos
    have hunits : (m.units : ℚ) < step s.power := by
      have htable := (search_range _ m.log2_mem).1
      have hlog : m.units < 2 ^ (m.units.log2 + 1) := Nat.lt_log2_self
      have hd : 0 < 10 ^ (-s.power).toNat := Nat.pow_pos (by decide)
      have hd' : (0 : ℚ) < (10 ^ (-s.power).toNat : ℕ) := by positivity
      rw [← hfirst] at htable
      rw [step_eq, lt_div_iff₀ hd']
      have hlt := (Nat.mul_lt_mul_of_pos_right hlog hd).trans_le htable
      generalize 2 * one * 10 ^ s.power.toNat = n at *
      exact_mod_cast hlt
    linarith
  · have hfine : (2 : ℚ) ^ spacing m.units ≤ step (s.power + 1) := by
      by_contra hc
      rw [not_le, step_eq, div_lt_iff₀ (by positivity)] at hc
      have hlt : 2 * one * 10 ^ (s.power + 1).toNat <
          2 ^ spacing m.units * 10 ^ (-(s.power + 1)).toNat := by
        generalize 2 * one * 10 ^ (s.power + 1).toNat = n at *
        exact_mod_cast hc
      have hsome := multiple?_of_step_lt hm hlt
      rw [hnone] at hsome
      cases hsome
    have hten : step (s.power + 1) = 10 * step s.power := by
      rw [step, step, zpow_add_one₀ (by norm_num)]
      ring
    have hunits : (m.units : ℚ) ≤ 2 ^ 53 * 2 ^ spacing m.units := by
      have := (lt_two_pow_spacing m.units).le
      rw [Nat.pow_add] at this
      exact_mod_cast this
    linarith

theorem bounded_of_shortest? {m : Magnitude} {s : ShortDecimal} (h : m.shortest? = some s) :
    s.Bounded :=
  ⟨(multiple?_spec (exists_power_of_shortest? h).1).2.1, coefficient_lt_of_shortest? h⟩

theorem nearest_of_shortest? {m : Magnitude} {s : ShortDecimal} (h : m.shortest? = some s) :
    nearest s.value = amount m.units :=
  nearest_of_multiple? (exists_power_of_shortest? h).1

end Binary64.Magnitude

end Questionnaire.Number
