import Questionnaire.Proofs.Number.Rational
import Mathlib.Data.List.Induction
import Mathlib.Data.List.TakeWhile

namespace Questionnaire.Number

theorem digitValue_le {c : Char} (h : isDigit c) : digitValue c ≤ 9 := by
  simp only [isDigit, Bool.and_eq_true, decide_eq_true_eq] at h
  have h9 : c.toNat ≤ '9'.toNat := h.2
  unfold digitValue
  change c.toNat - 48 ≤ 9
  change c.toNat ≤ 57 at h9
  omega

theorem digitValue_pos {c : Char} (h : isDigit c) (h0 : c ≠ '0') : 0 < digitValue c := by
  simp only [isDigit, Bool.and_eq_true, decide_eq_true_eq] at h
  have hle : '0'.toNat ≤ c.toNat := h.1
  have hne : '0'.toNat ≠ c.toNat := fun he => h0 (Char.toNat_inj.mp he.symm)
  unfold digitValue
  omega

theorem natOfDigits_append (as bs : List Char) :
    natOfDigits (as ++ bs) = natOfDigits as * 10 ^ bs.length + natOfDigits bs := by
  induction bs using List.reverseRecOn with
  | nil => simp
  | append_singleton bs c ih =>
    rw [← List.append_assoc, natOfDigits_concat, natOfDigits_concat, ih, List.length_append,
      List.length_singleton, Nat.pow_succ]
    ring

theorem natOfDigits_lt {ds : List Char} (h : ∀ c ∈ ds, isDigit c) :
    natOfDigits ds < 10 ^ ds.length := by
  induction ds using List.reverseRecOn with
  | nil => simp
  | append_singleton ds c ih =>
    have hc : digitValue c ≤ 9 := digitValue_le (h c (by simp))
    have hds := ih fun c hm => h c (by simp [hm])
    rw [natOfDigits_concat, List.length_append, List.length_singleton, Nat.pow_succ]
    omega

theorem pow_le_natOfDigits {c : Char} {ds : List Char} (hc : isDigit c) (h0 : c ≠ '0') :
    10 ^ ds.length ≤ natOfDigits (c :: ds) := by
  have happ := natOfDigits_append [c] ds
  have hone : natOfDigits [c] = digitValue c := by simp [natOfDigits]
  rw [List.singleton_append, hone] at happ
  rw [happ]
  exact (Nat.le_mul_of_pos_left _ (digitValue_pos hc h0)).trans (Nat.le_add_right _ _)

theorem natOfDigits_dropWhile (ds : List Char) :
    natOfDigits (ds.dropWhile (· = '0')) = natOfDigits ds := by
  induction ds with
  | nil => rfl
  | cons c ds ih =>
    by_cases hc : c = '0'
    · subst hc
      rw [List.dropWhile_cons_of_pos (by simp), ih]
      have happ := natOfDigits_append ['0'] ds
      rw [List.singleton_append] at happ
      simpa [show natOfDigits ['0'] = 0 from rfl] using happ.symm
    · rw [List.dropWhile_cons_of_neg (by simp [hc])]

namespace Numeral

theorem isDigit_of_ofChars? {cs : List Char} {n : Numeral} (h : ofChars? cs = some n) :
    ∀ c ∈ n.digits, isDigit c := by
  unfold ofChars? at h
  dsimp only at h
  split at h
  · cases h
  · obtain ⟨e, -, rfl⟩ := Option.map_eq_some_iff.mp h
    intro c hc
    rcases List.mem_append.mp hc with hw | hf
    · exact List.mem_takeWhile_imp hw
    · dsimp only at hf
      unfold takeFraction at hf
      split at hf
      · exact List.mem_takeWhile_imp hf
      · cases hf

theorem coefficient_lt {n : Numeral} (h : ∀ c ∈ n.digits, isDigit c) :
    n.coefficient < 10 ^ n.significantDigits := by
  rw [coefficient, ← natOfDigits_dropWhile]
  exact natOfDigits_lt fun c hc => h c ((List.dropWhile_sublist _).mem hc)

theorem pow_le_coefficient {n : Numeral} (h : ∀ c ∈ n.digits, isDigit c) (h0 : n.coefficient ≠ 0) :
    10 ^ (n.significantDigits - 1) ≤ n.coefficient := by
  rw [coefficient, ← natOfDigits_dropWhile] at *
  rw [significantDigits]
  cases hd : n.digits.dropWhile (· = '0') with
  | nil =>
    rw [hd] at h0
    exact absurd rfl h0
  | cons c ds =>
    have hc : c ∈ n.digits := (List.dropWhile_sublist _).mem (hd ▸ List.mem_cons_self)
    have hne : c ≠ '0' := by
      have := List.head_dropWhile_not (· = '0') (l := n.digits) (by simp [hd])
      simpa [hd] using this
    have hle : 10 ^ ds.length ≤ natOfDigits (c :: ds) := pow_le_natOfDigits (h c hc) hne
    simpa using hle

end Numeral

namespace Binary64

/-- Large powers of two against powers of ten: 93 bits have at most 28 digits. -/
theorem two_pow_le_ten_pow {a b e f k : Nat} (h : 2 ^ a ≤ 10 ^ b) (he : e = 93 * k + a)
    (hf : f = 28 * k + b) : 2 ^ e ≤ 10 ^ f := by
  rw [he, hf, Nat.pow_add, Nat.pow_add, Nat.pow_mul, Nat.pow_mul]
  exact Nat.mul_le_mul (Nat.pow_le_pow_left (by decide) k) h

theorem two_mul_one_le : 2 * one ≤ 10 ^ 324 := by
  have hsmall : 2 ^ 52 ≤ 10 ^ 16 := by decide
  have hexp : unitExponent.succ = 93 * 11 + 52 := by decide
  rw [one, ← Nat.pow_succ']
  exact two_pow_le_ten_pow (f := 324) hsmall hexp (by decide)

theorem limit_le_of_two_pow_le {k : Nat} (h : 2 ^ topExponent ≤ 10 ^ k) : limit ≤ 10 ^ k * one := by
  rw [limit, Nat.mul_comm]
  exact Nat.mul_le_mul_right one h

theorem limit_le : limit ≤ 10 ^ 310 * one := by
  have hsmall : 2 ^ 1 ≤ 10 ^ 2 := by decide
  have hexp : topExponent = 93 * 11 + 1 := by decide
  exact limit_le_of_two_pow_le (k := 310) (two_pow_le_ten_pow (f := 310) hsmall hexp (by decide))

theorem zpow_neg_mul_one_le {k : ℕ} (h : 2 * one ≤ 10 ^ k) :
    (10 : ℚ) ^ (-(k : ℤ)) * one ≤ 1 / 2 := by
  have hk : 2 * (one : ℚ) ≤ 10 ^ k := by exact_mod_cast h
  rw [zpow_neg, zpow_natCast, inv_mul_le_iff₀ (by positivity)]
  linarith

theorem limit_le_zpow_mul_one {k : ℕ} (h : limit ≤ 10 ^ k * one) :
    (limit : ℚ) ≤ 10 ^ (k : ℤ) * one := by
  rw [zpow_natCast]
  exact_mod_cast h

end Binary64

namespace Numeral

open Binary64

theorem magnitude_eq (n : Numeral) :
    n.magnitude = (n.coefficient * 10 ^ n.power.toNat : ℕ) / (10 ^ (-n.power).toNat : ℕ) := by
  rw [magnitude, ten_zpow_eq, ← mul_div_assoc]
  push_cast
  rfl

theorem magnitude_lt {n : Numeral} (h : ∀ c ∈ n.digits, isDigit c) :
    n.magnitude < 10 ^ (n.significantDigits + n.power : ℤ) := by
  have h10 : (0 : ℚ) < 10 ^ n.power := by positivity
  rw [zpow_add₀ (by norm_num), zpow_natCast, magnitude]
  exact mul_lt_mul_of_pos_right (by exact_mod_cast coefficient_lt h) h10

theorem le_magnitude {n : Numeral} (h : ∀ c ∈ n.digits, isDigit c) (h0 : n.coefficient ≠ 0) :
    (10 : ℚ) ^ (n.significantDigits + n.power - 1 : ℤ) ≤ n.magnitude := by
  have hpos : n.significantDigits ≠ 0 := by
    intro hz
    have hlt := coefficient_lt h
    rw [hz] at hlt
    omega
  have hsplit : (n.significantDigits + n.power - 1 : ℤ) = (n.significantDigits - 1 : ℕ) + n.power := by
    omega
  rw [hsplit, zpow_add₀ (by norm_num), zpow_natCast, magnitude]
  refine mul_le_mul_of_nonneg_right ?_ (by positivity)
  exact_mod_cast pow_le_coefficient h h0

/-- The bounds on the exponent only save work: the number is always the nearest one. -/
theorem toBinary64_eq {n : Numeral} (h : ∀ c ∈ n.digits, isDigit c) :
    n.toBinary64 = .ofUnits n.negative (nearestUnits (n.magnitude * one)) := by
  unfold toBinary64
  dsimp only
  split
  · rename_i hsmall
    congr 1
    symm
    refine nearestUnits_of_le_half ?_
    rcases hsmall with h0 | htop
    · rw [magnitude, h0, Nat.cast_zero, zero_mul, zero_mul]
      exact one_half_pos.le
    · have hlt := magnitude_lt h
      have hle : (10 : ℚ) ^ (n.significantDigits + n.power : ℤ) ≤ 10 ^ (-(324 : ℕ) : ℤ) :=
        zpow_le_zpow_right₀ (by norm_num) (by omega)
      calc n.magnitude * one ≤ 10 ^ (-(324 : ℕ) : ℤ) * one :=
            mul_le_mul_of_nonneg_right (hlt.le.trans hle) (by positivity)
        _ ≤ 1 / 2 := zpow_neg_mul_one_le two_mul_one_le
  · split
    · rename_i hz hlarge
      have hle := le_magnitude h fun h0 => hz (.inl h0)
      have h310 : (10 : ℚ) ^ ((310 : ℕ) : ℤ) ≤ 10 ^ (n.significantDigits + n.power - 1 : ℤ) :=
        zpow_le_zpow_right₀ (by norm_num) (by omega)
      symm
      refine ofUnits_of_le (limit_le_nearestUnits ?_) _
      calc (limit : ℚ) ≤ 10 ^ ((310 : ℕ) : ℤ) * one := limit_le_zpow_mul_one limit_le
        _ ≤ n.magnitude * one := mul_le_mul_of_nonneg_right (h310.trans hle) (by positivity)
    · rw [ofRatio, snap_eq_nearestUnits _ (by positivity), magnitude_eq]
      congr 2
      push_cast
      ring

theorem eq_of_toBinary64 {n : Numeral} (h : ∀ c ∈ n.digits, isDigit c) {x : Finite64}
    (hx : n.toBinary64 = .finite x) :
    x.negative = n.negative ∧ x.magnitude.units = nearestUnits (n.magnitude * one) :=
  eq_of_ofUnits ((toBinary64_eq h).symm.trans hx)

/-- The exact decimal of a numeral is its value, cut after 28 places. -/
theorem value_of_decimal? {n : Numeral} {d : Decimal} (h : n.decimal? = some d) :
    d.value = cut Decimal.maxScale n.value := by
  unfold decimal? at h
  split at h
  · cases h
  · dsimp only at h
    obtain ⟨hc, hs⟩ := Decimal.of?_eq_some_iff.mp h
    rw [Decimal.value, hc, hs, ← signed_natCast, ← signed_div, value,
      cut_signed _ n.magnitude_nonneg, magnitude_eq]
    congr 1
    generalize n.coefficient * 10 ^ n.power.toNat = c at *
    generalize (-n.power).toNat = q at *
    rcases Nat.le_total q Decimal.maxScale with hq | hq
    · -- all places are kept
      obtain ⟨r, hr⟩ := Nat.exists_eq_add_of_le hq
      have hfloor : ((c : ℚ) / (10 ^ q : ℕ)) * 10 ^ Decimal.maxScale = (c * 10 ^ r : ℕ) := by
        rw [hr, pow_add]
        push_cast
        field_simp
      rw [hfloor, Nat.floor_natCast, Nat.min_eq_left hq, Nat.sub_eq_zero_of_le hq, Nat.pow_zero,
        Nat.div_one, hr, pow_add]
      push_cast
      field_simp
    · obtain ⟨r, hr⟩ := Nat.exists_eq_add_of_le hq
      have hfloor : ((c : ℚ) / (10 ^ q : ℕ)) * 10 ^ Decimal.maxScale = c / (10 ^ r : ℕ) := by
        rw [hr, Nat.pow_add]
        push_cast
        field_simp
      rw [hfloor, Nat.floor_div_eq_div, Nat.min_eq_right hq, hr, Nat.add_sub_cancel_left]

end Numeral

end Questionnaire.Number
