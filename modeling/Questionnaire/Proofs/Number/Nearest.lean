import Questionnaire.Number.Binary64
import Mathlib.Algebra.Order.Field.Basic
import Mathlib.Data.Rat.Cast.Order
import Mathlib.Tactic.FieldSimp
import Mathlib.Tactic.Linarith
import Mathlib.Tactic.Positivity
import Mathlib.Tactic.Ring

namespace Questionnaire.Number

theorem divNearestEven_le_iff {n d m : Nat} (hd : 0 < d) :
    divNearestEven n d ≤ m ↔ 2 * n < (2 * m + 1) * d ∨ 2 * n = (2 * m + 1) * d ∧ m % 2 = 0 := by
  have hn : d * (n / d) + n % d = n := Nat.div_add_mod n d
  have hr : n % d < d := Nat.mod_lt n hd
  unfold divNearestEven
  dsimp only
  generalize n / d = q at *
  generalize n % d = r at *
  have hmul : (2 * m + 1) * d = 2 * (d * m) + d := by ring
  rcases Nat.lt_trichotomy q m with hq | rfl | hq
  · have hle : d * (q + 1) ≤ d * m := Nat.mul_le_mul_left d hq
    rw [Nat.mul_add, Nat.mul_one] at hle
    split <;> omega
  · split <;> omega
  · have hle : d * (m + 1) ≤ d * q := Nat.mul_le_mul_left d hq
    rw [Nat.mul_add, Nat.mul_one] at hle
    split <;> omega

theorem divNearestEven_mono {n d n' d' : Nat} (hd : 0 < d) (hd' : 0 < d') (h : n * d' ≤ n' * d) :
    divNearestEven n d ≤ divNearestEven n' d' := by
  set m := divNearestEven n' d' with hm
  have hself := (divNearestEven_le_iff hd').mp hm.ge
  rw [divNearestEven_le_iff hd]
  -- both sides of the comparison with the half are brought to the common denominator
  have hlift : 2 * n * d' ≤ 2 * n' * d := by
    calc 2 * n * d' = 2 * (n * d') := by ring
      _ ≤ 2 * (n' * d) := Nat.mul_le_mul_left 2 h
      _ = 2 * n' * d := by ring
  have hcommon : (2 * m + 1) * d' * d = (2 * m + 1) * d * d' := by ring
  rcases hself with hlt | ⟨heq, heven⟩
  · have : 2 * n * d' < (2 * m + 1) * d * d' := by
      calc 2 * n * d' ≤ 2 * n' * d := hlift
        _ < (2 * m + 1) * d' * d := Nat.mul_lt_mul_of_pos_right hlt hd
        _ = (2 * m + 1) * d * d' := hcommon
    exact .inl (Nat.lt_of_mul_lt_mul_right this)
  · have : 2 * n * d' ≤ (2 * m + 1) * d * d' := by
      calc 2 * n * d' ≤ 2 * n' * d := hlift
        _ = (2 * m + 1) * d * d' := by rw [heq, hcommon]
    rcases Nat.lt_or_eq_of_le (Nat.le_of_mul_le_mul_right this hd') with hlt | heq'
    · exact .inl hlt
    · exact .inr ⟨heq', heven⟩

theorem divNearestEven_near {n d : Nat} (hd : 0 < d) :
    2 * n ≤ (2 * divNearestEven n d + 1) * d ∧ 2 * divNearestEven n d * d ≤ 2 * n + d := by
  have hn : d * (n / d) + n % d = n := Nat.div_add_mod n d
  have hr : n % d < d := Nat.mod_lt n hd
  unfold divNearestEven
  dsimp only
  generalize n / d = q at *
  generalize n % d = r at *
  have h₁ : (2 * q + 1) * d = 2 * (d * q) + d := by ring
  have h₂ : (2 * (q + 1) + 1) * d = 2 * (d * q) + 3 * d := by ring
  have h₃ : 2 * q * d = 2 * (d * q) := by ring
  have h₄ : 2 * (q + 1) * d = 2 * (d * q) + 2 * d := by ring
  split <;> omega

theorem divNearestEven_mul_self (q : Nat) {d : Nat} (hd : 0 < d) : divNearestEven (q * d) d = q := by
  unfold divNearestEven
  simp [Nat.mul_div_cancel q hd, hd]

namespace Binary64

theorem lt_two_pow_spacing (u : Nat) : u < 2 ^ (53 + spacing u) := by
  calc u < 2 ^ (u.log2 + 1) := Nat.lt_log2_self
    _ ≤ 2 ^ (53 + spacing u) := Nat.pow_le_pow_right (by decide) (by unfold spacing; omega)

theorem two_pow_spacing_le {u : Nat} (h : spacing u ≠ 0) : 2 ^ (52 + spacing u) ≤ u := by
  have hu : u ≠ 0 := by
    rintro rfl
    exact h rfl
  have he : 52 + spacing u = u.log2 := by
    unfold spacing at *
    omega
  rw [he]
  exact Nat.log2_self_le hu

theorem spacing_mono {u v : Nat} (h : u ≤ v) : spacing u ≤ spacing v := by
  rcases Nat.eq_zero_or_pos u with rfl | hu
  · exact Nat.zero_le _
  · have : u.log2 ≤ v.log2 := (Nat.le_log2 (by omega)).mpr ((Nat.log2_self_le (by omega)).trans h)
    unfold spacing
    omega

theorem spacing_eq {u k : Nat} (hlow : k = 0 ∨ 2 ^ (52 + k) ≤ u) (hhigh : u < 2 ^ (53 + k)) :
    spacing u = k := by
  rcases Nat.eq_zero_or_pos u with rfl | hu
  · rcases hlow with rfl | hlow
    · rfl
    · have := Nat.two_pow_pos (52 + k)
      omega
  · have hlt : u.log2 < 53 + k := (Nat.log2_lt (by omega)).mpr hhigh
    unfold spacing
    rcases hlow with rfl | hlow
    · omega
    · have := (Nat.le_log2 (by omega)).mpr hlow
      omega

/-- A count of units that 53 significant bits can hold. -/
def OnGrid (u : Nat) : Prop := 2 ^ spacing u ∣ u

theorem onGrid_mul_two_pow {q k : Nat} (hq : q ≤ 2 ^ 53) : OnGrid (q * 2 ^ k) := by
  rcases Nat.lt_or_eq_of_le hq with hlt | rfl
  · have hu : q * 2 ^ k < 2 ^ (53 + k) := by
      rw [Nat.pow_add]
      exact Nat.mul_lt_mul_of_pos_right hlt (Nat.two_pow_pos k)
    have hk : spacing (q * 2 ^ k) ≤ k := by
      by_contra hc
      have hlow := two_pow_spacing_le (u := q * 2 ^ k) (by omega)
      have hle : 2 ^ (53 + k) ≤ 2 ^ (52 + spacing (q * 2 ^ k)) :=
        Nat.pow_le_pow_right (by decide) (by omega)
      omega
    exact (Nat.pow_dvd_pow 2 hk).trans (Nat.dvd_mul_left _ q)
  · have he : spacing (2 ^ 53 * 2 ^ k) = k + 1 := by
      rw [← Nat.pow_add]
      exact spacing_eq (.inr (Nat.pow_le_pow_right (by decide) (by omega)))
        (Nat.pow_lt_pow_right (by decide) (by omega))
    rw [OnGrid, he, ← Nat.pow_add]
    exact Nat.pow_dvd_pow 2 (by omega)

theorem onGrid_two_pow (k : Nat) : OnGrid (2 ^ k) := by
  have h := onGrid_mul_two_pow (q := 1) (k := k) (by decide)
  rwa [Nat.one_mul] at h

/-- On the grid every count is a multiple of each spacing up to its own. -/
theorem OnGrid.dvd {u k : Nat} (h : OnGrid u) (hk : k ≤ spacing u) : 2 ^ k ∣ u :=
  (Nat.pow_dvd_pow 2 hk).trans h

theorem snap_eq (n d : Nat) :
    snap n d = divNearestEven n (d * 2 ^ spacing (n / d)) * 2 ^ spacing (n / d) := rfl

theorem lt_mul_two_pow_spacing (n : Nat) {d : Nat} (hd : 0 < d) :
    n < 2 ^ 53 * (d * 2 ^ spacing (n / d)) := by
  have h : n / d < 2 ^ (53 + spacing (n / d)) := lt_two_pow_spacing _
  calc n < 2 ^ (53 + spacing (n / d)) * d := (Nat.div_lt_iff_lt_mul hd).mp h
    _ = 2 ^ 53 * (d * 2 ^ spacing (n / d)) := by rw [Nat.pow_add]; ring

theorem divNearestEven_snap_le (n : Nat) {d : Nat} (hd : 0 < d) :
    divNearestEven n (d * 2 ^ spacing (n / d)) ≤ 2 ^ 53 := by
  have hp : 0 < d * 2 ^ spacing (n / d) := Nat.mul_pos hd (Nat.two_pow_pos _)
  have hn := lt_mul_two_pow_spacing n hd
  rw [divNearestEven_le_iff hp]
  left
  rw [Nat.add_mul, Nat.one_mul, Nat.mul_assoc]
  omega

theorem onGrid_snap (n : Nat) {d : Nat} (hd : 0 < d) : OnGrid (snap n d) :=
  onGrid_mul_two_pow (divNearestEven_snap_le n hd)

theorem snap_le_two_pow (n : Nat) {d : Nat} (hd : 0 < d) : snap n d ≤ 2 ^ (53 + spacing (n / d)) := by
  rw [snap_eq, Nat.pow_add]
  exact Nat.mul_le_mul_right _ (divNearestEven_snap_le n hd)

theorem two_pow_le_snap {n d : Nat} (hd : 0 < d) (h : spacing (n / d) ≠ 0) :
    2 ^ (52 + spacing (n / d)) ≤ snap n d := by
  have hp : 0 < d * 2 ^ spacing (n / d) := Nat.mul_pos hd (Nat.two_pow_pos _)
  have hn : 2 ^ 52 * (d * 2 ^ spacing (n / d)) ≤ n := by
    calc 2 ^ 52 * (d * 2 ^ spacing (n / d)) = 2 ^ (52 + spacing (n / d)) * d := by
          rw [Nat.pow_add]; ring
      _ ≤ n := (Nat.le_div_iff_mul_le hd).mp (two_pow_spacing_le h)
  have hq : 2 ^ 52 ≤ divNearestEven n (d * 2 ^ spacing (n / d)) := by
    calc 2 ^ 52 = divNearestEven (2 ^ 52 * (d * 2 ^ spacing (n / d)))
          (d * 2 ^ spacing (n / d)) := (divNearestEven_mul_self _ hp).symm
      _ ≤ _ := divNearestEven_mono hp hp (Nat.mul_le_mul_right _ hn)
  rw [snap_eq, Nat.pow_add]
  exact Nat.mul_le_mul_right _ hq

theorem snap_mono {n d n' d' : Nat} (hd : 0 < d) (hd' : 0 < d') (h : n * d' ≤ n' * d) :
    snap n d ≤ snap n' d' := by
  have hquot : n / d ≤ n' / d' := by
    rw [Nat.le_div_iff_mul_le hd']
    refine Nat.le_of_mul_le_mul_right ?_ hd
    calc n / d * d' * d = n / d * d * d' := by ring
      _ ≤ n * d' := Nat.mul_le_mul_right _ (Nat.div_mul_le_self n d)
      _ ≤ n' * d := h
  rcases Nat.lt_or_eq_of_le (spacing_mono hquot) with hlt | heq
  · -- the two lie in different powers of two, and rounding keeps each in its own
    calc snap n d ≤ 2 ^ (53 + spacing (n / d)) := snap_le_two_pow n hd
      _ ≤ 2 ^ (52 + spacing (n' / d')) := Nat.pow_le_pow_right (by decide) (by omega)
      _ ≤ snap n' d' := two_pow_le_snap hd' (by omega)
  · rw [snap_eq, snap_eq, heq]
    refine Nat.mul_le_mul_right _ (divNearestEven_mono ?_ ?_ ?_)
    · exact Nat.mul_pos hd (Nat.two_pow_pos _)
    · exact Nat.mul_pos hd' (Nat.two_pow_pos _)
    · rw [← Nat.mul_assoc, ← Nat.mul_assoc]
      exact Nat.mul_le_mul_right _ h

theorem snap_of_onGrid {u d : Nat} (hd : 0 < d) (h : OnGrid u) : snap (u * d) d = u := by
  obtain ⟨q, hq⟩ := h
  have hp : 0 < d * 2 ^ spacing u := Nat.mul_pos hd (Nat.two_pow_pos _)
  rw [snap_eq, Nat.mul_div_cancel u hd]
  have hud : u * d = q * (d * 2 ^ spacing u) := by
    conv_lhs => rw [hq]
    ring
  rw [hud, divNearestEven_mul_self q hp, Nat.mul_comm]
  exact hq.symm

/-- The count of units on the grid nearest to a magnitude in units. -/
def nearestUnits (x : ℚ) : Nat := snap x.num.toNat x.den

theorem snap_eq_nearestUnits (n : Nat) {d : Nat} (hd : 0 < d) :
    snap n d = nearestUnits ((n : ℚ) / d) := by
  set x : ℚ := (n : ℚ) / d with hx
  have hnonneg : 0 ≤ x := by positivity
  have hnum : ((x.num.toNat : Nat) : ℚ) = x * x.den := by
    have h : ((x.num.toNat : ℤ) : ℚ) = x.num := by
      rw [Int.toNat_of_nonneg (Rat.num_nonneg.mpr hnonneg)]
    rw [Rat.mul_den_eq_num, ← h]
    rfl
  have hd' : (d : ℚ) ≠ 0 := by positivity
  have hcross : n * x.den = x.num.toNat * d := by
    have : (n : ℚ) * x.den = x.num.toNat * d := by
      rw [hnum, hx]
      field_simp
    exact_mod_cast this
  exact Nat.le_antisymm (snap_mono hd x.den_pos hcross.le) (snap_mono x.den_pos hd hcross.ge)

theorem nearestUnits_mono {x y : ℚ} (h : x ≤ y) : nearestUnits x ≤ nearestUnits y := by
  refine snap_mono x.den_pos y.den_pos ?_
  rcases le_total x.num 0 with hx | hx
  · simp [Int.toNat_of_nonpos hx]
  · have hle := (Rat.le_iff _ _).mp h
    have hy : 0 ≤ y.num := Rat.num_nonneg.mpr ((Rat.num_nonneg.mp hx).trans h)
    zify
    rwa [Int.toNat_of_nonneg hx, Int.toNat_of_nonneg hy]

theorem nearestUnits_of_onGrid {u : Nat} (h : OnGrid u) : nearestUnits (u : ℚ) = u := by
  rw [nearestUnits, Rat.num_natCast, Rat.den_natCast, Int.toNat_natCast]
  simpa using snap_of_onGrid Nat.one_pos h

theorem snap_near (n : Nat) {d : Nat} (hd : 0 < d) :
    |(snap n d : ℚ) - n / d| ≤ 2 ^ spacing (n / d) / 2 := by
  set k := spacing (n / d) with hk
  have hD : 0 < d * 2 ^ k := Nat.mul_pos hd (Nat.two_pow_pos k)
  obtain ⟨h₁, h₂⟩ := divNearestEven_near (n := n) hD
  rw [snap_eq, ← hk]
  generalize divNearestEven n (d * 2 ^ k) = q at *
  have hd' : (0 : ℚ) < d := by exact_mod_cast hd
  have h₁' : 2 * (n : ℚ) ≤ (2 * q + 1) * (d * 2 ^ k) := by exact_mod_cast h₁
  have h₂' : 2 * (q : ℚ) * (d * 2 ^ k) ≤ 2 * n + d * 2 ^ k := by exact_mod_cast h₂
  push_cast
  rw [abs_le]
  constructor
  · have : (n : ℚ) / d ≤ q * 2 ^ k + 2 ^ k / 2 := by
      rw [div_le_iff₀ hd']
      linarith
    linarith
  · have : (q : ℚ) * 2 ^ k - 2 ^ k / 2 ≤ n / d := by
      rw [le_div_iff₀ hd']
      linarith
    linarith

theorem exists_div_eq {x : ℚ} (h : 0 ≤ x) : ∃ n d : ℕ, 0 < d ∧ x = n / d := by
  have hcast : ((x.num.toNat : ℕ) : ℚ) = x.num := by
    exact_mod_cast Int.toNat_of_nonneg (Rat.num_nonneg.mpr h)
  exact ⟨x.num.toNat, x.den, x.den_pos, by rw [hcast, Rat.num_div_den]⟩

/-- Rounding changes a number with 53 bits before the point by half a unit of its last bit. -/
theorem abs_nearestUnits_sub_le {x : ℚ} (h : 2 ^ 52 ≤ x) :
    |(nearestUnits x : ℚ) - x| ≤ 1 / 2 ^ 53 * x := by
  obtain ⟨n, d, hd, rfl⟩ := exists_div_eq (le_trans (by positivity) h)
  have hd' : (0 : ℚ) < d := by exact_mod_cast hd
  have hquot : 2 ^ (52 + spacing (n / d)) ≤ n / d := by
    by_cases hk : spacing (n / d) = 0
    · rw [hk, Nat.le_div_iff_mul_le hd]
      rw [le_div_iff₀ hd'] at h
      exact_mod_cast h
    · exact two_pow_spacing_le hk
  have hle : (2 : ℚ) ^ (52 + spacing (n / d)) ≤ n / d := by
    rw [le_div_iff₀ hd']
    exact_mod_cast (Nat.le_div_iff_mul_le hd).mp hquot
  rw [← snap_eq_nearestUnits n hd]
  calc |(snap n d : ℚ) - n / d| ≤ 2 ^ spacing (n / d) / 2 := snap_near n hd
    _ = 1 / 2 ^ 53 * 2 ^ (52 + spacing (n / d)) := by rw [pow_add]; ring
    _ ≤ 1 / 2 ^ 53 * (n / d) := by gcongr

theorem nearestUnits_of_nonpos {x : ℚ} (h : x ≤ 0) : nearestUnits x = 0 := by
  have h0 : nearestUnits 0 = 0 := nearestUnits_of_onGrid (u := 0) (Nat.dvd_zero _)
  exact Nat.le_zero.mp (h0 ▸ nearestUnits_mono h)

theorem onGrid_nearestUnits (x : ℚ) : OnGrid (nearestUnits x) :=
  onGrid_snap _ x.den_pos

theorem limit_eq : limit = 2 ^ (unitExponent + topExponent) := by
  rw [limit, one, Nat.pow_add]

theorem ofUnits_of_lt {u : Nat} (hu : OnGrid u) (h : u < limit) (negative : Bool) :
    ofUnits negative u = .finite ⟨negative, ⟨u, hu, h⟩⟩ := by
  unfold ofUnits Magnitude.ofUnits?
  rw [dif_pos ⟨hu, h⟩]

theorem ofUnits_of_le {u : Nat} (h : limit ≤ u) (negative : Bool) :
    ofUnits negative u = .infinite negative := by
  unfold ofUnits Magnitude.ofUnits?
  rw [dif_neg fun hu => absurd hu.2 (Nat.not_lt.mpr h)]

theorem eq_of_ofUnits {u : Nat} {negative : Bool} {x : Finite64}
    (h : ofUnits negative u = .finite x) : x.negative = negative ∧ x.magnitude.units = u := by
  unfold ofUnits Magnitude.ofUnits? at h
  split at h
  · rename_i m hm
    split at hm
    · cases hm
      cases h
      exact ⟨rfl, rfl⟩
    · cases hm
  · cases h

theorem nearestUnits_of_le_half {x : ℚ} (h : x ≤ 1 / 2) : nearestUnits x = 0 := by
  have hhalf : nearestUnits (1 / 2) = 0 := by
    have hs := snap_eq_nearestUnits 1 (d := 2) (by decide)
    rw [Nat.cast_one, Nat.cast_ofNat] at hs
    rw [← hs]
    decide
  exact Nat.le_zero.mp (hhalf ▸ nearestUnits_mono h)

theorem limit_le_nearestUnits {x : ℚ} (h : (limit : ℚ) ≤ x) : limit ≤ nearestUnits x := by
  calc limit = nearestUnits limit := (nearestUnits_of_onGrid (limit_eq ▸ onGrid_two_pow _)).symm
    _ ≤ nearestUnits x := nearestUnits_mono h

end Binary64

end Questionnaire.Number
