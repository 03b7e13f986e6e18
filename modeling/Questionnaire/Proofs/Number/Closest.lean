import Questionnaire.Proofs.Number.Reading

namespace Questionnaire.Number

theorem add_le_of_dvd {k u v : ℕ} (hu : k ∣ u) (hv : k ∣ v) (h : u < v) : u + k ≤ v := by
  have := Nat.le_of_dvd (by omega) (Nat.dvd_sub hv hu)
  omega

theorem divNearestEven_even {n d : ℕ}
    (h : 2 * n = (2 * divNearestEven n d + 1) * d ∨ 2 * n + d = 2 * divNearestEven n d * d)
    (hd : 0 < d) : divNearestEven n d % 2 = 0 := by
  have hn : d * (n / d) + n % d = n := Nat.div_add_mod n d
  have hr : n % d < d := Nat.mod_lt n hd
  unfold divNearestEven at *
  dsimp only at *
  generalize n / d = q at *
  generalize n % d = r at *
  have h₁ : (2 * q + 1) * d = 2 * (d * q) + d := by ring
  have h₂ : (2 * (q + 1) + 1) * d = 2 * (d * q) + 3 * d := by ring
  have h₃ : 2 * q * d = 2 * (d * q) := by ring
  have h₄ : 2 * (q + 1) * d = 2 * (d * q) + 2 * d := by ring
  split at h <;> split <;> omega

namespace Binary64

/-- The bits of a count from the last one that its size allows. -/
def significand (u : ℕ) : ℕ := u / 2 ^ spacing u

theorem dvd_snap (n d : ℕ) : 2 ^ spacing (n / d) ∣ snap n d := Nat.dvd_mul_left _ _

/-- No count on the grid lies less than a step above the rounded one, past the quotient. -/
theorem snap_add_le {n d v : ℕ} (hv : OnGrid v) (hn : n / d ≤ v) (h : snap n d < v) :
    snap n d + 2 ^ spacing (n / d) ≤ v :=
  add_le_of_dvd (dvd_snap n d) (hv.dvd (spacing_mono hn)) h

theorem add_le_snap {n d v : ℕ} (hd : 0 < d) (hv : OnGrid v) (hn : n < snap n d * d)
    (h : v < snap n d) : v + 2 ^ spacing (n / d) ≤ snap n d := by
  rcases Nat.lt_or_ge (spacing v) (spacing (n / d)) with hlt | hge
  · -- the quotient is at least the power of two from which its spacing holds, the count is below it
    have hpow : 2 ^ (52 + spacing (n / d)) ≤ n / d := two_pow_spacing_le (by omega)
    have hv' : v < 2 ^ (52 + spacing (n / d)) :=
      (lt_two_pow_spacing v).trans_le (Nat.pow_le_pow_right (by decide) (by omega))
    have hsnap : n / d < snap n d := (Nat.div_lt_iff_lt_mul hd).mpr hn
    have hstep : 2 ^ (52 + spacing (n / d)) + 2 ^ spacing (n / d) ≤ snap n d :=
      add_le_of_dvd (Nat.pow_dvd_pow 2 (by omega)) (dvd_snap n d) (by omega)
    omega
  · exact add_le_of_dvd (hv.dvd hge) (dvd_snap n d) h

theorem significand_mul_two_pow {q k : ℕ} (hq : q ≤ 2 ^ 53) (heven : q % 2 = 0)
    (hk : k = 0 ∨ 2 ^ 52 ≤ q) : significand (q * 2 ^ k) % 2 = 0 := by
  have hlow : k = 0 ∨ 2 ^ (52 + k) ≤ q * 2 ^ k := by
    refine hk.imp id fun h => ?_
    rw [Nat.pow_add]
    exact Nat.mul_le_mul_right _ h
  rcases Nat.lt_or_eq_of_le hq with hlt | rfl
  · have hhigh : q * 2 ^ k < 2 ^ (53 + k) := by
      rw [Nat.pow_add]
      exact Nat.mul_lt_mul_of_pos_right hlt (Nat.two_pow_pos k)
    rw [significand, spacing_eq hlow hhigh, Nat.mul_div_cancel _ (Nat.two_pow_pos k)]
    exact heven
  · have hu : 2 ^ 53 * 2 ^ k = 2 ^ 52 * 2 ^ (k + 1) := by rw [Nat.pow_succ]; ring
    have hspacing : spacing (2 ^ 52 * 2 ^ (k + 1)) = k + 1 := by
      refine spacing_eq (.inr ?_) ?_
      · rw [Nat.pow_add]
      · rw [← Nat.pow_add]
        exact Nat.pow_lt_pow_right (by decide) (by omega)
    rw [hu, significand, hspacing, Nat.mul_div_cancel _ (Nat.two_pow_pos _)]

/-- A quotient half a step away has been rounded to an even significand. -/
theorem significand_snap {n d : ℕ} (hd : 0 < d)
    (h : |(snap n d : ℚ) - n / d| = 2 ^ spacing (n / d) / 2) : significand (snap n d) % 2 = 0 := by
  have hlow : spacing (n / d) = 0 ∨
      2 ^ 52 ≤ divNearestEven n (d * 2 ^ spacing (n / d)) := by
    refine or_iff_not_imp_left.mpr fun hk => ?_
    have hle := two_pow_le_snap hd hk
    rw [snap_eq, Nat.pow_add] at hle
    exact Nat.le_of_mul_le_mul_right hle (Nat.two_pow_pos _)
  have hle := divNearestEven_snap_le n hd
  rw [snap_eq] at *
  refine significand_mul_two_pow hle (divNearestEven_even ?_ ?_) hlow
  · generalize divNearestEven n (d * 2 ^ spacing (n / d)) = q at *
    generalize spacing (n / d) = k at *
    have hd' : (d : ℚ) ≠ 0 := by exact_mod_cast hd.ne'
    push_cast at h
    rcases (abs_eq (by positivity)).mp h with h | h
    · right
      have : 2 * (n : ℚ) + d * 2 ^ k = 2 * q * (d * 2 ^ k) := by
        field_simp at h
        linarith
      exact_mod_cast this
    · left
      have : 2 * (n : ℚ) = (2 * q + 1) * (d * 2 ^ k) := by
        field_simp at h
        linarith
      exact_mod_cast this
  · exact Nat.mul_pos hd (Nat.two_pow_pos _)

/-- Another count on the grid is farther away, or the two have the quotient between them and are
at least one step apart. -/
theorem snap_gap {n d v : ℕ} (hd : 0 < d) (hv : OnGrid v) (hne : v ≠ snap n d) :
    |(snap n d : ℚ) - n / d| < |(v : ℚ) - n / d| ∨
      2 ^ spacing (n / d) ≤ |(snap n d : ℚ) - n / d| + |(v : ℚ) - n / d| := by
  have hd' : (0 : ℚ) < d := by exact_mod_cast hd
  have hself := nearestUnits_of_onGrid hv
  have hsnap := snap_eq_nearestUnits n hd
  rcases Nat.lt_or_gt_of_ne hne with hlt | hgt
  · have hlt' : (v : ℚ) < snap n d := by exact_mod_cast hlt
    have hvx : (v : ℚ) ≤ n / d := by
      by_contra hc
      have := nearestUnits_mono (not_le.mp hc).le
      omega
    rw [abs_of_nonpos (by linarith : (v : ℚ) - n / d ≤ 0)]
    rcases le_or_gt (snap n d : ℚ) (n / d) with hle | hgt
    · left
      rw [abs_of_nonpos (by linarith)]
      linarith
    · right
      rw [div_lt_iff₀ hd'] at hgt
      have hstep := add_le_snap hd hv (by exact_mod_cast hgt) hlt
      have hstep' : (v : ℚ) + 2 ^ spacing (n / d) ≤ snap n d := by exact_mod_cast hstep
      have := le_abs_self ((snap n d : ℚ) - n / d)
      linarith
  · have hgt' : (snap n d : ℚ) < v := by exact_mod_cast hgt
    have hxv : (n : ℚ) / d ≤ v := by
      by_contra hc
      have := nearestUnits_mono (not_le.mp hc).le
      omega
    rw [abs_of_nonneg (by linarith : 0 ≤ (v : ℚ) - n / d)]
    rcases le_or_gt (n / d : ℚ) (snap n d) with hle | hlt
    · left
      rw [abs_of_nonneg (by linarith)]
      linarith
    · right
      rw [div_le_iff₀ hd'] at hxv
      have hn : n / d ≤ v := (Nat.div_le_div_right (by exact_mod_cast hxv)).trans
        (Nat.mul_div_cancel v hd).le
      have hstep := snap_add_le hv hn hgt
      have hstep' : (snap n d : ℚ) + 2 ^ spacing (n / d) ≤ v := by exact_mod_cast hstep
      have := neg_abs_le ((snap n d : ℚ) - n / d)
      linarith

/-- Every other count on the grid is farther away, or as far, and then the significand is even. -/
theorem nearestUnits_closest {x : ℚ} (hx : 0 ≤ x) {v : ℕ} (hv : OnGrid v)
    (hne : v ≠ nearestUnits x) :
    |(nearestUnits x : ℚ) - x| < |(v : ℚ) - x| ∨
      |(nearestUnits x : ℚ) - x| = |(v : ℚ) - x| ∧ significand (nearestUnits x) % 2 = 0 := by
  obtain ⟨n, d, hd, rfl⟩ := exists_div_eq hx
  rw [← snap_eq_nearestUnits n hd] at *
  have hnear := snap_near n hd
  rcases snap_gap hd hv hne with hlt | hgap
  · exact .inl hlt
  · -- at most half a step on one side leaves at least as much on the other
    rcases lt_or_ge |(snap n d : ℚ) - n / d| |(v : ℚ) - n / d| with hlt | hge
    · exact .inl hlt
    · exact .inr ⟨by linarith, significand_snap hd (by linarith)⟩

theorem nearest_closest {y : ℚ} (hy : 0 ≤ y) {v : ℕ} (hv : OnGrid v) (hne : amount v ≠ nearest y) :
    |nearest y - y| < |amount v - y| ∨
      |nearest y - y| = |amount v - y| ∧ significand (nearestUnits (y * one)) % 2 = 0 := by
  have hscale : ∀ u : ℕ, |amount u - y| = |(u : ℚ) - y * one| / one := fun u => by
    rw [← abs_of_pos cast_one_pos, ← abs_div, abs_of_pos cast_one_pos, sub_div,
      mul_div_cancel_right₀ _ cast_one_pos.ne', amount]
  have hclosest := nearestUnits_closest (mul_nonneg hy cast_one_pos.le) hv
    fun h => hne (congrArg amount h)
  rw [nearest, hscale, hscale, div_lt_div_iff_of_pos_right cast_one_pos, div_left_inj' cast_one_pos.ne']
  exact hclosest

theorem abs_nearest_sub_le {y : ℚ} (hy : 0 ≤ y) : |nearest y - y| ≤ y := by
  have hzero : OnGrid 0 := Nat.dvd_zero _
  have h0 : |amount 0 - y| = y := by
    rw [amount, Nat.cast_zero, zero_div, zero_sub, abs_neg, abs_of_nonneg hy]
  by_cases hne : amount 0 = nearest y
  · rw [← hne, h0]
  · rcases nearest_closest hy hzero hne with hlt | ⟨heq, -⟩
    · exact hlt.le.trans h0.le
    · exact heq.le.trans h0.le

end Binary64

namespace Finite64

open Binary64

/-- No binary64 number is closer to the rational, and if another one is as close, this one has the
even significand. -/
def IsNearest (f : Finite64) (x : ℚ) : Prop :=
  ∀ g : Finite64, g.value ≠ f.value →
    |f.value - x| < |g.value - x| ∨
      |f.value - x| = |g.value - x| ∧ significand f.magnitude.units % 2 = 0

theorem value_cases (g : Finite64) (b : Bool) :
    (∃ v, OnGrid v ∧ g.value = signed b (amount v)) ∨ ∃ a, 0 < a ∧ g.value = signed b (-a) := by
  have hvalue : g.value = signed g.negative (amount g.magnitude.units) := g.value_eq_signed
  by_cases hsign : g.negative = b
  · exact .inl ⟨_, g.magnitude.onGrid, hsign ▸ hvalue⟩
  · have hflip : g.value = signed b (-amount g.magnitude.units) := by
      rw [hvalue]
      cases hg : g.negative <;> cases b <;> simp_all [signed]
    rcases eq_or_lt_of_le (amount_nonneg g.magnitude.units) with h0 | hpos
    · have hzero : amount 0 = 0 := amount_eq_zero.mpr rfl
      rw [← h0, neg_zero, ← hzero] at hflip
      exact .inl ⟨0, Nat.dvd_zero _, hflip⟩
    · exact .inr ⟨_, hpos, hflip⟩

theorem isNearest_of_value_eq {f : Finite64} {x : ℚ} (h : f.value = rounded x) :
    f.IsNearest x := by
  obtain ⟨b, y, hy, rfl⟩ := exists_signed x
  rw [rounded_signed hy] at h
  have hunits : nearestUnits (y * one) = f.magnitude.units := by
    have habs : |f.value| = amount f.magnitude.units := by
      rw [f.value_eq_signed]
      exact abs_signed (amount_nonneg _)
    have hamount : amount f.magnitude.units = nearest y := by
      rw [← habs, h]
      exact abs_signed (amount_nonneg _)
    exact (amount_inj.mp hamount).symm
  intro g hg
  rw [h] at hg
  rw [h, abs_signed_sub, ← hunits]
  rcases g.value_cases b with ⟨v, hv, hvalue⟩ | ⟨a, ha, hvalue⟩
  · rw [hvalue] at hg ⊢
    rw [abs_signed_sub]
    exact nearest_closest hy hv fun he => hg (congrArg (signed b) he)
  · left
    rw [hvalue, abs_signed_sub, abs_of_neg (by linarith : -a - y < 0)]
    have := abs_nearest_sub_le hy
    linarith

end Finite64

end Questionnaire.Number
