import Questionnaire.Proofs.Number.Grammar

namespace Questionnaire.Number

/-- A signed word of `k` bits and a sign holds the integer. -/
def Fits (k : ℕ) (x : ℤ) : Prop := -2 ^ k ≤ x ∧ x < 2 ^ k

instance (k : ℕ) (x : ℤ) : Decidable (Fits k x) := inferInstanceAs (Decidable (_ ∧ _))

/-- Why a computation with words stops: it gives up, or an operation that nothing checks leaves its
word. -/
inductive WordFault where
  | refused
  | overflow
  deriving DecidableEq

/-- The integer as a word. -/
def word (fault : WordFault) (k : ℕ) (x : ℤ) : Except WordFault ℤ :=
  if Fits k x then .ok x else .error fault

section

variable {α : Type} {fault : WordFault} {k : ℕ} {x : ℤ} {f : ℤ → Except WordFault α}

theorem word_bind_of_fits (h : Fits k x) : (word fault k x >>= f) = f x := by
  rw [word, if_pos h]
  rfl

theorem word_bind_of_not_fits (h : ¬Fits k x) : (word fault k x >>= f) = .error fault := by
  rw [word, if_neg h]
  rfl

end

theorem fits_natCast_iff {k c : ℕ} : Fits k (c : ℤ) ↔ c < 2 ^ k := by
  have hpow : ((2 ^ k : ℕ) : ℤ) = 2 ^ k := by push_cast; rfl
  unfold Fits
  omega

namespace Numeral

/-- Multiplies the mantissa by ten, checked, as long as the scale is negative. -/
def raise (mantissa scale : ℤ) : Except WordFault (ℤ × ℤ) :=
  if scale < 0 then
    if ¬Fits 127 (mantissa * 10) then .error .refused
    else if ¬Fits 63 (scale + 1) then .error .overflow
    else raise (mantissa * 10) (scale + 1)
  else .ok (mantissa, scale)
termination_by (-scale).toNat

/-- Divides the mantissa by ten as long as there are too many places. -/
def lower (mantissa scale : ℤ) : Except WordFault (ℤ × ℤ) :=
  if Decimal.maxScale < scale then
    if ¬Fits 127 (mantissa.tdiv 10) then .error .overflow
    else if ¬Fits 63 (scale - 1) then .error .overflow
    else lower (mantissa.tdiv 10) (scale - 1)
  else .ok (mantissa, scale)
termination_by scale.toNat

/-- The decimal of a mantissa and a scale, which becomes an unsigned word of 32 bits. -/
def assemble (negative : Bool) (mantissa scale : ℤ) : Except WordFault Decimal := do
  let mantissa ← word .overflow 127 (if negative then -mantissa else mantissa)
  if ¬(0 ≤ scale ∧ scale < 2 ^ 32) then .error .overflow
  else (Decimal.of? mantissa scale.toNat).elim (.error .refused) .ok

/-- Brings the scale into the range of decimals, by powers of ten. -/
def rescale (negative : Bool) (mantissa scale : ℤ) : Except WordFault Decimal := do
  let (mantissa, scale) ← raise mantissa scale
  let (mantissa, scale) ← lower mantissa scale
  assemble negative mantissa scale

/-- The exact decimal with an exponent and a scale of 64 bits and a mantissa of 128 bits. The digits
and the exponent are refused if they do not fit. -/
def decimalByWords (n : Numeral) : Except WordFault Decimal := do
  let exponent ← word .refused 63 (n.exponent.getD 0)
  let size ← word .overflow 63 exponent.natAbs
  if maxExactExponent < size then .error .refused
  else
    let mantissa ← word .refused 127 n.coefficient
    let places ← word .overflow 63 n.places
    let scale ← word .overflow 63 (places - exponent)
    rescale n.negative mantissa scale

/-- What multiplying keeps is the mantissa in units of the scale. -/
theorem raise_natCast {c : ℕ} {scale : ℤ} (hc : c < 2 ^ 127) (hs : Fits 63 scale) :
    raise c scale =
      if c * 10 ^ (-scale).toNat < 2 ^ 127 then
        .ok ((c * 10 ^ (-scale).toNat : ℕ), max scale 0)
      else .error .refused := by
  induction hk : (-scale).toNat generalizing c scale with
  | zero =>
    have hscale : ¬scale < 0 := by omega
    rw [raise, if_neg hscale, Nat.pow_zero, Nat.mul_one, if_pos hc, max_eq_left (by omega)]
  | succ k ih =>
    have hscale : scale < 0 := by omega
    have hstep : Fits 63 (scale + 1) := by
      unfold Fits at *
      omega
    have hten : ((c * 10 : ℕ) : ℤ) = c * 10 := by push_cast; rfl
    have hpow : c * 10 ^ (k + 1) = c * 10 * 10 ^ k := by rw [Nat.pow_succ']; ring
    rw [raise, if_pos hscale, ← hten, hpow]
    by_cases hfits : c * 10 < 2 ^ 127
    · rw [if_neg (not_not.mpr (fits_natCast_iff.mpr hfits)), if_neg (not_not.mpr hstep),
        ih hfits hstep (by omega), max_eq_right (by omega), max_eq_right (by omega)]
    · -- a mantissa that has left its word does not come back
      have hle : c * 10 ≤ c * 10 * 10 ^ k := Nat.le_mul_of_pos_right _ (Nat.pow_pos (by decide))
      rw [if_pos (mt fits_natCast_iff.mp hfits), if_neg (by omega)]

theorem lower_natCast {c : ℕ} {scale : ℤ} (hc : c < 2 ^ 127) (h0 : 0 ≤ scale)
    (hs : Fits 63 scale) :
    lower c scale =
      .ok ((c / 10 ^ (scale - Decimal.maxScale).toNat : ℕ), min scale Decimal.maxScale) := by
  have hmax : (Decimal.maxScale : ℤ) = 28 := rfl
  induction hk : (scale - Decimal.maxScale).toNat generalizing c scale with
  | zero =>
    have hscale : ¬Decimal.maxScale < scale := by omega
    rw [lower, if_neg hscale, Nat.pow_zero, Nat.div_one, min_eq_left (by omega)]
  | succ k ih =>
    have hscale : Decimal.maxScale < scale := by omega
    have hstep : Fits 63 (scale - 1) := by
      unfold Fits at *
      omega
    have hten : (c : ℤ).tdiv 10 = (c / 10 : ℕ) := rfl
    have hfits : c / 10 < 2 ^ 127 := (Nat.div_le_self c 10).trans_lt hc
    rw [lower, if_pos hscale, hten, if_neg (not_not.mpr (fits_natCast_iff.mpr hfits)),
      if_neg (not_not.mpr hstep), ih hfits (by omega) hstep (by omega), Nat.div_div_eq_div_mul,
      ← Nat.pow_succ', min_eq_right (by omega), min_eq_right (by omega)]

theorem assemble_natCast (negative : Bool) {c scale : ℕ} (hc : c < 2 ^ 127)
    (hs : scale ≤ Decimal.maxScale) :
    assemble negative c scale =
      (Decimal.of? (if negative then -(c : ℤ) else c) scale).elim (.error .refused) .ok := by
  have hmax : Decimal.maxScale = 28 := rfl
  have hfits : Fits 127 (if negative then -(c : ℤ) else c) := by
    have := fits_natCast_iff.mpr hc
    unfold Fits at *
    split <;> omega
  have hrange : 0 ≤ (scale : ℤ) ∧ (scale : ℤ) < 2 ^ 32 := by omega
  rw [assemble, word_bind_of_fits hfits, if_neg (not_not.mpr hrange), Int.toNat_natCast]

/-- Digits that multiplying takes out of their word are too many for a decimal. -/
theorem rescale_natCast (negative : Bool) {c : ℕ} {scale : ℤ} (hc : c < 2 ^ 127)
    (hs : Fits 63 scale) :
    rescale negative c scale =
      let digits := c * 10 ^ (-scale).toNat / 10 ^ (scale.toNat - Decimal.maxScale)
      (Decimal.of? (if negative then -(digits : ℤ) else digits)
        (min scale.toNat Decimal.maxScale)).elim (.error .refused) .ok := by
  dsimp only
  rw [rescale, raise_natCast hc hs]
  split
  · rename_i hfits
    have hs' : Fits 63 (max scale 0) := by
      unfold Fits at *
      omega
    have hplaces : (max scale 0 - Decimal.maxScale).toNat = scale.toNat - Decimal.maxScale := by
      omega
    have hkept : min (max scale 0) Decimal.maxScale = (min scale.toNat Decimal.maxScale : ℕ) := by
      omega
    have hquot := (Nat.div_le_self _ (10 ^ (scale.toNat - Decimal.maxScale))).trans_lt hfits
    have hlowered := lower_natCast hfits (le_max_right scale 0) hs'
    rw [hplaces, hkept] at hlowered
    have hassembled := assemble_natCast negative hquot (Nat.min_le_right scale.toNat Decimal.maxScale)
    simp only [bind, Except.bind, hlowered, hassembled]
  · rename_i hfits
    have hpow : (2 : ℕ) ^ 96 ≤ 2 ^ 127 := Nat.pow_le_pow_right (by decide) (by decide)
    have hneg : scale.toNat - Decimal.maxScale = 0 := by
      by_contra h
      rw [Int.toNat_of_nonpos (by omega), Nat.pow_zero, Nat.mul_one] at hfits
      exact hfits hc
    rw [hneg, Nat.pow_zero, Nat.div_one, Decimal.of?_of_le negative _ (hpow.trans (not_lt.mp hfits))]
    rfl

variable {n : Numeral}

/-- The places of the exact decimal: those that are written less the exponent, but no fewer than
none and no more than a decimal has. -/
def scale (n : Numeral) : ℕ := (min (n.places - n.exponent.getD 0) Decimal.maxScale : ℤ).toNat

/-- The digits of the exact decimal, read as one natural. -/
def mantissa (n : Numeral) : ℕ := ⌊n.magnitude * 10 ^ n.scale⌋₊

theorem scale_eq (n : Numeral) : n.scale = min (-n.power).toNat Decimal.maxScale := by
  rw [scale, power]
  omega

theorem mantissa_eq (n : Numeral) :
    n.mantissa =
      n.coefficient * 10 ^ n.power.toNat / 10 ^ ((-n.power).toNat - Decimal.maxScale) := by
  have hsplit : (-n.power).toNat = n.scale + ((-n.power).toNat - Decimal.maxScale) := by
    rw [scale_eq]
    omega
  have hquot : n.magnitude * 10 ^ n.scale =
      (n.coefficient * 10 ^ n.power.toNat : ℕ) /
        (10 ^ ((-n.power).toNat - Decimal.maxScale) : ℕ) := by
    rw [magnitude_eq]
    generalize n.coefficient * 10 ^ n.power.toNat = c
    generalize (-n.power).toNat - Decimal.maxScale = rest at *
    rw [hsplit, pow_add]
    push_cast
    field_simp
  rw [mantissa, hquot, Nat.floor_div_eq_div]

theorem decimal?_eq (n : Numeral) :
    n.decimal? =
      if maxExactExponent < (n.exponent.getD 0).natAbs ∨ coefficientLimit ≤ n.coefficient then none
      else Decimal.of? (if n.negative then -(n.mantissa : ℤ) else n.mantissa) n.scale := by
  rw [decimal?, scale_eq, mantissa_eq]

/-- What has no exact decimal: a large exponent, many digits, or many at the scale of the decimal. -/
theorem decimal?_eq_none_iff :
    n.decimal? = none ↔ 64 < (n.exponent.getD 0).natAbs ∨ 2 ^ 127 ≤ n.coefficient ∨
      2 ^ 96 ≤ n.mantissa := by
  have hscale : n.scale ≤ Decimal.maxScale := by
    rw [scale_eq]
    exact Nat.min_le_right _ _
  rw [decimal?_eq, ← or_assoc]
  by_cases hlimit :
      maxExactExponent < (n.exponent.getD 0).natAbs ∨ coefficientLimit ≤ n.coefficient
  · rw [if_pos hlimit]
    exact iff_of_true rfl (.inl hlimit)
  · rw [if_neg hlimit]
    rcases Nat.lt_or_ge n.mantissa Decimal.coefficientBound with hlt | hge
    · obtain ⟨d, hd, -⟩ := Decimal.exists_of? n.negative hlt hscale
      rw [hd]
      apply iff_of_false nofun
      rintro (h | h)
      · exact hlimit h
      · exact absurd hlt (Nat.not_lt.mpr h)
    · rw [Decimal.of?_of_le n.negative n.scale hge]
      exact iff_of_true rfl (.inr hge)

/-- The words give the exact decimal if an exponent can be taken from the count of places. -/
theorem decimalByWords_eq (hexponent : n.exponent ≠ some (-2 ^ 63))
    (hplaces : n.places + maxExactExponent < 2 ^ 63) :
    n.decimalByWords = n.decimal?.elim (.error .refused) .ok := by
  have hlarge : maxExactExponent = 64 := rfl
  have hlow : n.exponent.getD 0 ≠ -2 ^ 63 := by
    cases h : n.exponent with
    | none => decide
    | some e =>
      rintro rfl
      exact hexponent h
  rw [decimalByWords]
  by_cases hfits : Fits 63 (n.exponent.getD 0)
  · have hsize : Fits 63 (n.exponent.getD 0).natAbs := by
      unfold Fits at *
      omega
    rw [word_bind_of_fits hfits, word_bind_of_fits hsize]
    by_cases he : maxExactExponent < (n.exponent.getD 0).natAbs
    · rw [if_pos (by exact_mod_cast he), decimal?_of_exponent he]
      rfl
    rw [if_neg (by exact_mod_cast he)]
    by_cases hc : n.coefficient < 2 ^ 127
    · have hscale : Fits 63 (n.places - n.exponent.getD 0) := by
        unfold Fits at *
        omega
      have hpower : n.places - n.exponent.getD 0 = -n.power := by
        rw [power]
        omega
      have hlimit : ¬(maxExactExponent < (n.exponent.getD 0).natAbs ∨
          coefficientLimit ≤ n.coefficient) := not_or.mpr ⟨he, Nat.not_le.mpr hc⟩
      rw [word_bind_of_fits (fits_natCast_iff.mpr hc),
        word_bind_of_fits (fits_natCast_iff.mpr (by omega)), word_bind_of_fits hscale,
        rescale_natCast n.negative hc hscale, decimal?_eq, if_neg hlimit, mantissa_eq, scale_eq,
        hpower, neg_neg]
    · rw [word_bind_of_not_fits (mt fits_natCast_iff.mp hc), decimal?_eq,
        if_pos (.inr (Nat.not_lt.mp hc))]
      rfl
  · have he : maxExactExponent < (n.exponent.getD 0).natAbs := by
      unfold Fits at hfits
      omega
    rw [word_bind_of_not_fits hfits, decimal?_of_exponent he]
    rfl

theorem decimalByWords_ne_overflow (hexponent : n.exponent ≠ some (-2 ^ 63))
    (hplaces : n.places + maxExactExponent < 2 ^ 63) : n.decimalByWords ≠ .error .overflow := by
  rw [decimalByWords_eq hexponent hplaces]
  cases n.decimal? <;> exact nofun

theorem decimalByWords_eq_ok_iff (hexponent : n.exponent ≠ some (-2 ^ 63))
    (hplaces : n.places + maxExactExponent < 2 ^ 63) {d : Decimal} :
    n.decimalByWords = .ok d ↔ n.decimal? = some d := by
  rw [decimalByWords_eq hexponent hplaces]
  cases n.decimal? with
  | none => exact iff_of_false nofun nofun
  | some d' => rw [Option.elim_some, Except.ok.injEq, Option.some.injEq]

theorem scale_of_decimal? {d : Decimal} (h : n.decimal? = some d) : d.scale = n.scale := by
  rw [decimal?_eq] at h
  split at h
  · cases h
  · exact (Decimal.of?_eq_some_iff.mp h).2

theorem reading?_eq_exact_iff {d : Decimal} :
    n.reading? = some (.exact d) ↔ n.decimal? = some d := by
  unfold reading?
  cases n.decimal? with
  | some d' => rw [Option.some.injEq, Option.some.injEq, Reading.exact.injEq]
  | none =>
    dsimp only
    split
    · exact iff_of_false nofun nofun
    · exact iff_of_false nofun nofun

theorem exists_approximate_iff {x : Reading} (h : n.reading? = some x) :
    (∃ y, x = .approximate y) ↔ n.decimal? = none := by
  cases x with
  | exact d =>
    rw [reading?_eq_exact_iff.mp h]
    apply iff_of_false _ nofun
    rintro ⟨y, hy⟩
    cases hy
  | approximate y =>
    apply iff_of_true ⟨y, rfl⟩
    cases hd : n.decimal? with
    | none => rfl
    | some d =>
      rw [reading?_eq_exact_iff.mpr hd] at h
      cases h

end Numeral

/-- An exact reading is the written number cut after 28 places, with as many places as are written
less the exponent, and so the number itself if it needs no more. Other readings have a large
exponent, many digits or many at that scale. On the way no word overflows, of a text with fewer than
`2 ^ 63 - 64` places. -/
theorem Reading.value_eq_cut_of_writtenIn {s : String} {n : Numeral} {x : Reading}
    (hn : n.WrittenIn s) (hexponent : n.exponent ≠ some (-2 ^ 63))
    (hx : Reading.ofText? s = some x) :
    (∀ d, x = .exact d → d.value = cut 28 n.value ∧ d.scale = n.scale ∧
      ((∃ m : ℤ, n.value = m / 10 ^ 28) → d.value = n.value)) ∧
      ((∃ y, x = .approximate y) ↔ 64 < (n.exponent.getD 0).natAbs ∨ 2 ^ 127 ≤ n.coefficient ∨
        2 ^ 96 ≤ n.mantissa) ∧
      (n.places + 64 < 2 ^ 63 → n.decimalByWords ≠ .error .overflow ∧
        ∀ d, n.decimalByWords = .ok d ↔ x = .exact d) := by
  rw [ofText?_eq, Numeral.ofText?_eq_some_iff.mpr hn, Option.bind_some] at hx
  have hexact : ∀ d, n.decimal? = some d ↔ x = .exact d := by
    intro d
    rw [← Numeral.reading?_eq_exact_iff, hx, Option.some.injEq]
  refine ⟨?_, ?_, ?_⟩
  · intro d hd
    have hdecimal := (hexact d).mpr hd
    have hvalue : d.value = cut 28 n.value := Numeral.value_of_decimal? hdecimal
    refine ⟨hvalue, Numeral.scale_of_decimal? hdecimal, ?_⟩
    rintro ⟨m, hm⟩
    rw [hvalue, cut_of_eq_div hm]
  · rw [Numeral.exists_approximate_iff hx, Numeral.decimal?_eq_none_iff]
  · intro hplaces
    refine ⟨Numeral.decimalByWords_ne_overflow hexponent hplaces, ?_⟩
    intro d
    rw [Numeral.decimalByWords_eq_ok_iff hexponent hplaces, hexact]

/-- `-12.5 * 10 ^ -29`, of which one place is left. -/
def Numeral.tiny : Numeral := ⟨true, ['0', '0', '1', '2'], some ['5', '0'], some (-29)⟩

theorem Reading.value_eq_cut_of_writtenIn_tiny :
    Numeral.tiny.WrittenIn "\t-0012.50e-29 " ∧ Numeral.tiny.exponent ≠ some (-2 ^ 63) ∧
      ∃ d, Reading.ofText? "\t-0012.50e-29 " = some (.exact d) ∧ d.coefficient = -1 ∧
        d.value = cut 28 Numeral.tiny.value ∧ d.scale = Numeral.tiny.scale ∧
        Numeral.tiny.decimalByWords = .ok d := by
  have hn : Numeral.tiny.WrittenIn "\t-0012.50e-29 " := by
    rw [← Numeral.ofText?_eq_some_iff]
    decide
  have hexponent : Numeral.tiny.exponent ≠ some (-2 ^ 63) := by decide
  have hx : Reading.ofText? "\t-0012.50e-29 " = some (.exact ⟨-1, 28, by decide, by decide⟩) := by
    decide
  obtain ⟨hexact, -, hwords⟩ := value_eq_cut_of_writtenIn hn hexponent hx
  obtain ⟨hvalue, hscale, -⟩ := hexact _ rfl
  exact ⟨hn, hexponent, _, hx, rfl, hvalue, hscale, ((hwords (by decide)).2 _).mpr rfl⟩

end Questionnaire.Number
