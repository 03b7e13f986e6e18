import Questionnaire.Number.Shortest
import Questionnaire.Proofs.Number.Nearest

namespace Questionnaire.Number.Binary64

theorem snap_le_of_near {u n d : Nat} (hd : 0 < d) (hu : OnGrid u)
    (h : 2 * n < (2 * u + 2 ^ spacing u) * d ∨
      2 * n = (2 * u + 2 ^ spacing u) * d ∧ u / 2 ^ spacing u % 2 = 0) :
    snap n d ≤ u := by
  rcases Nat.lt_or_ge (u * d) n with hlt | hle
  · set s := spacing u with hs
    have hpow : 0 < 2 ^ s := Nat.two_pow_pos s
    obtain ⟨q, hq⟩ := hu
    rw [← hs, Nat.mul_comm] at hq
    have hqs : q < 2 ^ 53 := by
      have : q * 2 ^ s < 2 ^ 53 * 2 ^ s := by
        rw [← hq, ← Nat.pow_add]
        exact lt_two_pow_spacing u
      exact Nat.lt_of_mul_lt_mul_right this
    -- the quotient stays below the next count, so it has the spacing of the count
    have hquot : n / d < u + 2 ^ s := by
      rw [Nat.div_lt_iff_lt_mul hd]
      have : (2 * u + 2 ^ s) * d < 2 * ((u + 2 ^ s) * d) := by
        have hpd : 0 < 2 ^ s * d := Nat.mul_pos hpow hd
        rw [Nat.add_mul, Nat.add_mul, Nat.mul_assoc]
        omega
      omega
    have hspacing : spacing (n / d) = s := by
      refine spacing_eq ?_ ?_
      · have hle : u ≤ n / d := (Nat.le_div_iff_mul_le hd).mpr hlt.le
        rcases Nat.eq_zero_or_pos s with h0 | hpos
        · exact .inl h0
        · exact .inr ((two_pow_spacing_le (by omega)).trans hle)
      · calc n / d < u + 2 ^ s := hquot
          _ = (q + 1) * 2 ^ s := by rw [hq, Nat.add_mul, Nat.one_mul]
          _ ≤ 2 ^ 53 * 2 ^ s := Nat.mul_le_mul_right _ hqs
          _ = 2 ^ (53 + s) := (Nat.pow_add 2 53 s).symm
    have hmid : (2 * u + 2 ^ s) * d = (2 * q + 1) * (d * 2 ^ s) := by
      rw [hq]
      ring
    rw [hmid, hq, Nat.mul_div_cancel q hpow] at h
    rw [snap_eq, hspacing]
    calc divNearestEven n (d * 2 ^ s) * 2 ^ s ≤ q * 2 ^ s :=
          Nat.mul_le_mul_right _ ((divNearestEven_le_iff (Nat.mul_pos hd hpow)).mpr h)
      _ = u := hq.symm
  · calc snap n d ≤ snap (u * d) d := snap_mono hd hd (Nat.mul_le_mul_right d hle)
      _ = u := snap_of_onGrid hd hu

/-- Rounding up to `q * 2 ^ j` from a quotient with the spacing `2 ^ j`. -/
theorem le_snap_of_spacing {q j n d : Nat} (hd : 0 < d) (hj : spacing (n / d) = j)
    (h : (2 * q - 1) * (d * 2 ^ j) < 2 * n ∨ (2 * q - 1) * (d * 2 ^ j) ≤ 2 * n ∧ q % 2 = 0) :
    q * 2 ^ j ≤ snap n d := by
  rw [snap_eq, hj]
  refine Nat.mul_le_mul_right _ ?_
  by_contra hc
  obtain ⟨p, rfl⟩ : ∃ p, q = p + 1 := ⟨q - 1, by omega⟩
  have hp : divNearestEven n (d * 2 ^ j) ≤ p := by omega
  rw [divNearestEven_le_iff (Nat.mul_pos hd (Nat.two_pow_pos j))] at hp
  rw [show 2 * (p + 1) - 1 = 2 * p + 1 by omega] at h
  omega

theorem snap_lt_two_pow_iff {n d k : Nat} (hd : 0 < d) :
    snap n d < 2 ^ (54 + k) ↔ n < (2 ^ 54 - 1) * 2 ^ k * d := by
  have hpow : 0 < 2 ^ k := Nat.two_pow_pos k
  have htop : 2 ^ (54 + k) = 2 ^ 54 * 2 ^ k := Nat.pow_add 2 54 k
  have hbelow : 2 ^ (52 + (k + 1)) = 2 ^ 53 * 2 ^ k := by rw [← Nat.pow_add]; congr 1; omega
  have habove : 2 ^ (53 + (k + 1)) = 2 ^ 54 * 2 ^ k := by rw [← Nat.pow_add]; congr 1; omega
  have hstep : 2 ^ (k + 1) = 2 * 2 ^ k := Nat.pow_succ'
  constructor
  · intro h
    by_contra hge
    apply absurd h
    rw [Nat.not_lt] at hge ⊢
    rcases Nat.lt_or_ge n (2 ^ (54 + k) * d) with hn | hn
    · -- between the tie and the power of two the spacing is that of the numbers below
      have hspacing : spacing (n / d) = k + 1 := by
        apply spacing_eq
        · right
          rw [hbelow, Nat.le_div_iff_mul_le hd]
          exact (Nat.mul_le_mul_right d (Nat.mul_le_mul_right _ (by decide))).trans hge
        · rwa [habove, ← htop, Nat.div_lt_iff_lt_mul hd]
      have hle : 2 ^ 53 * 2 ^ (k + 1) ≤ snap n d := by
        apply le_snap_of_spacing hd hspacing
        right
        refine ⟨?_, by decide⟩
        calc (2 * 2 ^ 53 - 1) * (d * 2 ^ (k + 1)) = 2 * ((2 ^ 54 - 1) * 2 ^ k * d) := by
              rw [hstep]
              ring
          _ ≤ 2 * n := Nat.mul_le_mul_left 2 hge
      omega
    · calc 2 ^ (54 + k) = snap (2 ^ (54 + k) * d) d := (snap_of_onGrid hd (onGrid_two_pow _)).symm
        _ ≤ snap n d := snap_mono hd hd (Nat.mul_le_mul_right d hn)
  · intro h
    -- the largest number below the power of two
    have hspacing : spacing ((2 ^ 53 - 1) * 2 ^ (k + 1)) = k + 1 := by
      apply spacing_eq
      · right
        omega
      · omega
    have hle : snap n d ≤ (2 ^ 53 - 1) * 2 ^ (k + 1) := by
      apply snap_le_of_near hd (onGrid_mul_two_pow (by decide))
      left
      rw [hspacing]
      calc 2 * n < 2 * ((2 ^ 54 - 1) * 2 ^ k * d) := by omega
        _ = (2 * ((2 ^ 53 - 1) * 2 ^ (k + 1)) + 2 ^ (k + 1)) * d := by
          rw [← Nat.mul_assoc]
          congr 1
          omega
    omega

namespace Magnitude

/-- The counts just below a magnitude have the spacing that leads up to it. -/
theorem two_pow_spacing_below (m : Magnitude) {q : Nat} (hlow : m.units ≤ q + m.below)
    (hq : q < m.units) : 2 ^ spacing q = m.below := by
  obtain ⟨p, hp⟩ := m.onGrid
  have hpow : 0 < 2 ^ spacing m.units := Nat.two_pow_pos _
  unfold below at *
  dsimp only at *
  split at hlow
  · -- just above a power of two the grid below is twice as fine
    rename_i hb
    rw [if_pos hb]
    obtain ⟨hpos, hu⟩ := hb
    generalize spacing m.units = s at *
    obtain ⟨t, rfl⟩ : ∃ t, s = t + 1 := ⟨s - 1, by omega⟩
    rw [Nat.add_sub_cancel] at *
    have he : 2 ^ (52 + (t + 1)) = 2 * 2 ^ (52 + t) := by rw [← Nat.pow_succ']; rfl
    have he' : 2 ^ t ≤ 2 ^ (52 + t) := Nat.pow_le_pow_right (by decide) (by omega)
    have hsame : 53 + t = 52 + (t + 1) := by omega
    rw [spacing_eq (k := t) (.inr (by omega)) (by rw [hsame]; omega)]
  · rename_i hb
    rw [if_neg hb, spacing_eq (k := spacing m.units) ?_ (hq.trans (lt_two_pow_spacing _))]
    rcases Nat.eq_zero_or_pos (spacing m.units) with h0 | hpos
    · exact .inl h0
    · have hlow' := two_pow_spacing_le (u := m.units) (by omega)
      have hne : m.units ≠ 2 ^ (52 + spacing m.units) := fun he => hb ⟨hpos, he⟩
      -- the magnitude is a multiple of its spacing above the power of two
      have hp52 : 2 ^ 52 < p := by
        have : 2 ^ spacing m.units * 2 ^ 52 < 2 ^ spacing m.units * p := by
          rw [← hp, ← Nat.pow_add, Nat.add_comm]
          omega
        exact Nat.lt_of_mul_lt_mul_left this
      have hstep : 2 ^ (52 + spacing m.units) + 2 ^ spacing m.units ≤ m.units := by
        calc 2 ^ (52 + spacing m.units) + 2 ^ spacing m.units
            = 2 ^ spacing m.units * (2 ^ 52 + 1) := by rw [Nat.pow_add]; ring
          _ ≤ 2 ^ spacing m.units * p := Nat.mul_le_mul_left _ hp52
          _ = m.units := hp.symm
      right
      omega

theorem below_dvd (m : Magnitude) : m.below ∣ 2 ^ spacing m.units := by
  unfold below
  dsimp only
  split
  · exact Nat.pow_dvd_pow 2 (by omega)
  · exact Nat.dvd_refl _

/-- What a magnitude covers rounds to it. -/
theorem snap_of_covers (m : Magnitude) {n d : Nat} (hd : 0 < d) (h : m.covers n d) :
    snap n (2 * d) = m.units := by
  have hd2 : 0 < 2 * d := by omega
  have hbounds : m.lowerEnd * d ≤ n ∧ n ≤ m.upperEnd * d ∧
      (m.endsIncluded ∨ m.lowerEnd * d < n ∧ n < m.upperEnd * d) := by
    unfold covers at h
    split at h
    · rename_i he
      rw [Bool.and_eq_true, decide_eq_true_eq, decide_eq_true_eq] at h
      exact ⟨h.1, h.2, .inl he⟩
    · rw [Bool.and_eq_true, decide_eq_true_eq, decide_eq_true_eq] at h
      exact ⟨h.1.le, h.2.le, .inr h⟩
  obtain ⟨hlow, hhigh, hend⟩ := hbounds
  rw [endsIncluded, beq_iff_eq] at hend
  unfold lowerEnd at *
  unfold upperEnd at *
  refine Nat.le_antisymm (snap_le_of_near hd2 m.onGrid ?_) ?_
  · have he : (2 * m.units + 2 ^ spacing m.units) * (2 * d) =
        2 * ((2 * m.units + 2 ^ spacing m.units) * d) := by ring
    rw [he]
    omega
  · rcases Nat.lt_or_ge n (m.units * (2 * d)) with hlt | hge
    · -- below the magnitude the quotient has the finer of the two spacings
      have hq : n / (2 * d) < m.units := (Nat.div_lt_iff_lt_mul hd2).mpr hlt
      have hfloor : m.units ≤ n / (2 * d) + m.below := by
        have : m.units - m.below ≤ n / (2 * d) := by
          rw [Nat.le_div_iff_mul_le hd2]
          calc (m.units - m.below) * (2 * d) = (2 * (m.units - m.below)) * d := by ring
            _ ≤ (2 * m.units - m.below) * d := Nat.mul_le_mul_right d (by omega)
            _ ≤ n := hlow
        omega
      have hj := m.two_pow_spacing_below hfloor hq
      obtain ⟨r, hr⟩ := m.below_dvd
      obtain ⟨w, hw⟩ := m.onGrid
      rw [← hj] at hr hlow hend
      have hunits : m.units = r * w * 2 ^ spacing (n / (2 * d)) := by
        rw [hw, hr]
        ring
      have he : (2 * (r * w) - 1) * (2 * d * 2 ^ spacing (n / (2 * d))) =
          2 * ((2 * m.units - 2 ^ spacing (n / (2 * d))) * d) := by
        calc (2 * (r * w) - 1) * (2 * d * 2 ^ spacing (n / (2 * d)))
            = 2 * ((2 * (r * w) - 1) * 2 ^ spacing (n / (2 * d)) * d) := by ring
          _ = _ := by rw [Nat.sub_mul, Nat.one_mul, hunits, Nat.mul_assoc 2 (r * w)]
      rw [hunits]
      refine le_snap_of_spacing hd2 rfl ?_
      rw [he]
      rcases hend with heven | hstrict
      · right
        rw [Nat.div_eq_of_eq_mul_right (Nat.two_pow_pos _) hw] at heven
        refine ⟨by omega, ?_⟩
        rw [Nat.mul_mod, heven, Nat.mul_zero, Nat.zero_mod]
      · left
        omega
    · calc m.units = snap (m.units * (2 * d)) (2 * d) := (snap_of_onGrid hd2 m.onGrid).symm
        _ ≤ snap n (2 * d) := snap_mono hd2 hd2 (Nat.mul_le_mul_right _ hge)

end Magnitude

end Questionnaire.Number.Binary64
