import Questionnaire.Proofs.Number.Shortest

namespace Questionnaire.Number

theorem isDigit_of_mem_digitsOfNat {n : ℕ} : ∀ c ∈ digitsOfNat n, isDigit c :=
  fun _ h => Nat.isDigit_of_mem_toDigits (by decide) (by decide) h

theorem natOfDigits_digitsOfNat (n : ℕ) : natOfDigits (digitsOfNat n) = n :=
  Nat.ofDigitChars_toDigits (by decide) (by decide)

theorem digitsOfNat_ne_nil (n : ℕ) : digitsOfNat n ≠ [] := Nat.toDigits_ne_nil

theorem length_digitsOfNat_pos (n : ℕ) : 0 < (digitsOfNat n).length :=
  List.length_pos_iff.mpr (digitsOfNat_ne_nil n)

theorem lt_pow_length_digitsOfNat (n : ℕ) : n < 10 ^ (digitsOfNat n).length :=
  (Nat.length_toDigits_le_iff (by decide) (length_digitsOfNat_pos n)).mp le_rfl

theorem pow_length_digitsOfNat_le {n : ℕ} (h : 0 < n) : 10 ^ ((digitsOfNat n).length - 1) ≤ n := by
  rcases Nat.eq_zero_or_pos ((digitsOfNat n).length - 1) with h0 | hpos
  · rw [h0]
    exact h
  · by_contra hc
    have := (Nat.length_toDigits_le_iff (by decide : 1 < 10) hpos).mpr (not_le.mp hc)
    unfold digitsOfNat at *
    omega

theorem natOfDigits_replicate (k : ℕ) : natOfDigits (List.replicate k '0') = 0 := by
  induction k with
  | zero => rfl
  | succ k ih => rw [List.replicate_succ', natOfDigits_concat, ih]; rfl

theorem natOfDigits_padLeft (width : ℕ) (ds : List Char) :
    natOfDigits (padLeft width ds) = natOfDigits ds := by
  rw [padLeft, natOfDigits_append, natOfDigits_replicate, Nat.zero_mul, Nat.zero_add]

theorem isDigit_zero : isDigit '0' := by decide

theorem isDigit_of_mem_replicate {k : ℕ} : ∀ c ∈ List.replicate k '0', isDigit c := by
  intro c hc
  rw [List.eq_of_mem_replicate hc]
  exact isDigit_zero

theorem isDigit_of_mem_padLeft {width : ℕ} {ds : List Char} (h : ∀ c ∈ ds, isDigit c) :
    ∀ c ∈ padLeft width ds, isDigit c := by
  intro c hc
  rcases List.mem_append.mp hc with hc | hc
  · exact isDigit_of_mem_replicate c hc
  · exact h c hc

theorem isDigit_of_mem_paddedDigits {width n : ℕ} : ∀ c ∈ paddedDigits width n, isDigit c :=
  isDigit_of_mem_padLeft isDigit_of_mem_digitsOfNat

theorem natOfDigits_paddedDigits (width n : ℕ) : natOfDigits (paddedDigits width n) = n := by
  rw [paddedDigits, natOfDigits_padLeft, natOfDigits_digitsOfNat]

theorem length_paddedDigits {width n : ℕ} (hwidth : 0 < width) (h : n < 10 ^ width) :
    (paddedDigits width n).length = width := by
  rw [paddedDigits, length_padLeft, Nat.max_eq_left]
  exact (Nat.length_toDigits_le_iff (by decide) hwidth).mpr h

theorem takeWhile_append_of_head {p : Char → Bool} {cs rest : List Char} (hcs : ∀ c ∈ cs, p c)
    (hr : ∀ c ∈ rest.head?, ¬p c) : (cs ++ rest).takeWhile p = cs := by
  rw [List.takeWhile_append_of_pos hcs]
  cases rest with
  | nil => simp
  | cons c rest => rw [List.takeWhile_cons_of_neg (hr c rfl), List.append_nil]

theorem dropWhile_append_of_head {p : Char → Bool} {cs rest : List Char} (hcs : ∀ c ∈ cs, p c)
    (hr : ∀ c ∈ rest.head?, ¬p c) : (cs ++ rest).dropWhile p = rest := by
  rw [List.dropWhile_append_of_pos hcs]
  cases rest with
  | nil => rfl
  | cons c rest => rw [List.dropWhile_cons_of_neg (hr c rfl)]

namespace Numeral

def signText (negative : Bool) : List Char := if negative then ['-'] else []

def pointText : Option (List Char) → List Char
  | none => []
  | some fraction => '.' :: fraction

theorem takeSign_of_isDigit {cs : List Char} (h : ∀ c ∈ cs.head?, isDigit c) :
    takeSign cs = (false, cs) := by
  unfold takeSign
  split
  · exact absurd (h '-' rfl) (by decide)
  · exact absurd (h '+' rfl) (by decide)
  · rfl

theorem takeSign_signText (negative : Bool) {cs : List Char} (h : ∀ c ∈ cs.head?, isDigit c) :
    takeSign (signText negative ++ cs) = (negative, cs) := by
  cases negative
  · exact takeSign_of_isDigit h
  · rfl

theorem takeFraction_pointText {fraction : Option (List Char)} {rest : List Char}
    (hd : ∀ c ∈ fraction.getD [], isDigit c) (hr : ∀ c ∈ rest.head?, ¬isDigit c ∧ c ≠ '.') :
    takeFraction (pointText fraction ++ rest) = (fraction, rest) := by
  have hdigit : ∀ c ∈ rest.head?, ¬isDigit c := fun c hc => (hr c hc).1
  cases fraction with
  | none =>
    rw [pointText, List.nil_append]
    unfold takeFraction
    split
    · exact absurd rfl (hr '.' rfl).2
    · rfl
  | some fs =>
    rw [Option.getD_some] at hd
    rw [pointText, List.cons_append, takeFraction, takeWhile_append_of_head hd hdigit,
      dropWhile_append_of_head hd hdigit]

theorem ofChars?_of_takeSign {cs whole rest : List Char} {negative : Bool}
    {fraction : Option (List Char)}
    (hsign : takeSign cs = (negative, whole ++ (pointText fraction ++ rest)))
    (hne : ¬(whole = [] ∧ fraction.getD [] = [])) (hw : ∀ c ∈ whole, isDigit c)
    (hf : ∀ c ∈ fraction.getD [], isDigit c) (hr : ∀ c ∈ rest.head?, ¬isDigit c ∧ c ≠ '.') :
    ofChars? cs = (takeExponent? rest).map fun e => ⟨negative, whole, fraction, e⟩ := by
  have htail : ∀ c ∈ (pointText fraction ++ rest).head?, ¬isDigit c := by
    cases fraction with
    | none => exact fun c hc => (hr c hc).1
    | some fs =>
      intro c hc
      rw [pointText, List.cons_append, List.head?_cons, Option.mem_some_iff] at hc
      rw [← hc]
      decide
  unfold ofChars?
  dsimp only
  rw [hsign]
  dsimp only
  rw [takeWhile_append_of_head hw htail, dropWhile_append_of_head hw htail,
    takeFraction_pointText hf hr]
  rw [← List.isEmpty_iff, ← List.isEmpty_iff, ← Bool.and_eq_true] at hne
  exact if_neg hne

theorem ofChars?_append (negative : Bool) {whole : List Char} {fraction : Option (List Char)}
    {rest : List Char} (hne : whole ≠ []) (hw : ∀ c ∈ whole, isDigit c)
    (hf : ∀ c ∈ fraction.getD [], isDigit c) (hr : ∀ c ∈ rest.head?, ¬isDigit c ∧ c ≠ '.') :
    ofChars? (signText negative ++ (whole ++ (pointText fraction ++ rest))) =
      (takeExponent? rest).map fun e => ⟨negative, whole, fraction, e⟩ := by
  have hhead : ∀ c ∈ (whole ++ (pointText fraction ++ rest)).head?, isDigit c := by
    cases whole with
    | nil => exact absurd rfl hne
    | cons d ds =>
      intro c hc
      rw [List.cons_append, List.head?_cons, Option.mem_some_iff] at hc
      exact hw c (hc ▸ List.mem_cons_self)
  exact ofChars?_of_takeSign (takeSign_signText negative hhead) (fun h => hne h.1) hw hf hr

theorem exponentOf?_signText (negative : Bool) (k : ℕ) :
    exponentOf? (signText negative ++ digitsOfNat k) = some (if negative then -(k : ℤ) else k) := by
  have hhead : ∀ c ∈ (digitsOfNat k).head?, isDigit c :=
    fun c hc => isDigit_of_mem_digitsOfNat c (List.mem_of_mem_head? hc)
  have hne : (digitsOfNat k).isEmpty = false := by simpa using digitsOfNat_ne_nil k
  have hall : (digitsOfNat k).all isDigit = true := List.all_eq_true.mpr isDigit_of_mem_digitsOfNat
  unfold exponentOf?
  rw [takeSign_signText negative hhead]
  dsimp only
  rw [hne, hall, natOfDigits_digitsOfNat]
  rfl

theorem ofChars?_digits (negative : Bool) {whole : List Char} {fraction : Option (List Char)}
    (hne : whole ≠ []) (hw : ∀ c ∈ whole, isDigit c) (hf : ∀ c ∈ fraction.getD [], isDigit c) :
    ofChars? (signText negative ++ (whole ++ pointText fraction)) =
      some ⟨negative, whole, fraction, none⟩ := by
  have hend : ∀ c ∈ ([] : List Char).head?, ¬isDigit c ∧ c ≠ '.' := by simp
  have h := ofChars?_append negative hne hw hf hend
  rwa [List.append_nil] at h

theorem ofChars?_point (negative : Bool) {whole fraction : List Char} (hne : whole ≠ [])
    (hw : ∀ c ∈ whole, isDigit c) (hf : ∀ c ∈ fraction, isDigit c) :
    ofChars? (signText negative ++ (whole ++ '.' :: fraction)) =
      some ⟨negative, whole, some fraction, none⟩ := by
  have hf' : ∀ c ∈ (some fraction).getD [], isDigit c := hf
  have h := ofChars?_digits negative hne hw hf'
  rwa [pointText] at h

/-- The power of ten after the digits. -/
def exponentText (style : RealStyle) (e : ℤ) : List Char :=
  style.mark :: (if 0 ≤ e && style.plusSign then ['+'] else []) ++ (integerText e).toList

theorem takeExponent?_cons {c : Char} (h : c = 'e' ∨ c = 'E') (cs : List Char) :
    takeExponent? (c :: cs) = (exponentOf? cs).map some :=
  if_pos h

theorem takeExponent?_exponentText {style : RealStyle} (hmark : style.mark = 'e' ∨ style.mark = 'E')
    (e : ℤ) : takeExponent? (exponentText style e) = some (some e) := by
  have htext : (integerText e).toList = signText (decide (e < 0)) ++ digitsOfNat e.natAbs := by
    rw [integerText, String.toList_ofList, signText]
    simp only [decide_eq_true_eq]
  have hvalue : exponentOf? ((if 0 ≤ e && style.plusSign then ['+'] else []) ++
      (integerText e).toList) = some e := by
    rw [htext]
    split
    · rename_i hplus
      rw [Bool.and_eq_true, decide_eq_true_eq] at hplus
      have hneg : decide (e < 0) = false := decide_eq_false (by omega)
      have hskip : exponentOf? ('+' :: digitsOfNat e.natAbs) =
          exponentOf? (digitsOfNat e.natAbs) := by
        have hhead : ∀ c ∈ (digitsOfNat e.natAbs).head?, isDigit c :=
          fun c hc => isDigit_of_mem_digitsOfNat c (List.mem_of_mem_head? hc)
        unfold exponentOf?
        rw [takeSign_of_isDigit hhead, takeSign]
      have h := exponentOf?_signText false e.natAbs
      rw [hneg, signText, if_neg Bool.false_ne_true, List.nil_append, List.singleton_append, hskip]
      rw [signText, if_neg Bool.false_ne_true, List.nil_append] at h
      rw [h, if_neg Bool.false_ne_true]
      congr 1
      omega
    · rw [List.nil_append, exponentOf?_signText]
      congr 1
      split
      · rename_i hneg
        rw [decide_eq_true_eq] at hneg
        omega
      · rename_i hneg
        rw [decide_eq_true_eq] at hneg
        omega
  rw [exponentText, List.cons_append, takeExponent?_cons hmark, hvalue, Option.map_some]

theorem ofChars?_exponent (negative : Bool) {style : RealStyle} {whole : List Char}
    {fraction : Option (List Char)} (hmark : style.mark = 'e' ∨ style.mark = 'E')
    (hne : whole ≠ []) (hw : ∀ c ∈ whole, isDigit c) (hf : ∀ c ∈ fraction.getD [], isDigit c)
    (e : ℤ) :
    ofChars? (signText negative ++ (whole ++ (pointText fraction ++ exponentText style e))) =
      some ⟨negative, whole, fraction, some e⟩ := by
  have hend : ∀ c ∈ (exponentText style e).head?, ¬isDigit c ∧ c ≠ '.' := by
    intro c hc
    rw [exponentText, List.cons_append, List.head?_cons, Option.mem_some_iff] at hc
    subst hc
    rcases hmark with hc | hc <;> rw [hc] <;> decide
  rw [ofChars?_append negative hne hw hf hend, takeExponent?_exponentText hmark]
  rfl

end Numeral

/-- The exponent of the first digit. -/
def ShortDecimal.exponent (s : ShortDecimal) : ℤ :=
  ((digitsOfNat s.coefficient).length : ℤ) - 1 + s.power

namespace RealStyle

variable (style : RealStyle) (negative : Bool) (s : ShortDecimal)

/-- The decimal is written without a power of ten. -/
def IsPlain : Prop := style.lowestPlain ≤ s.exponent ∧ s.exponent ≤ style.highestPlain

instance : Decidable (style.IsPlain s) := inferInstanceAs (Decidable (_ ∧ _))

/-- The numeral that the text of a decimal is. -/
def numeral : Numeral :=
  let digits := digitsOfNat s.coefficient
  if style.IsPlain s then
    if 0 ≤ s.power then ⟨negative, digits ++ List.replicate s.power.toNat '0', some ['0'], none⟩
    else
      let places := (-s.power).toNat
      let padded := padLeft (places + 1) digits
      ⟨negative, padded.take (padded.length - places), some (padded.drop (padded.length - places)),
        none⟩
  else
    ⟨negative, digits.take 1, if (digits.drop 1).isEmpty then none else some (digits.drop 1),
      some s.exponent⟩

open Numeral

theorem ofChars?_render (hmark : style.mark = 'e' ∨ style.mark = 'E') :
    ofChars? (signText negative ++ style.render s) = some (style.numeral negative s) := by
  have hdigits := isDigit_of_mem_digitsOfNat (n := s.coefficient)
  have hne := digitsOfNat_ne_nil s.coefficient
  unfold render numeral
  dsimp only
  change ofChars? (signText negative ++ if style.IsPlain s then plain (digitsOfNat s.coefficient) s.power
    else style.scientific (digitsOfNat s.coefficient) s.exponent) = _
  split
  · unfold plain
    split
    · have hwhole : ∀ c ∈ digitsOfNat s.coefficient ++ List.replicate s.power.toNat '0', isDigit c :=
        fun c hc => (List.mem_append.mp hc).elim (hdigits c) (isDigit_of_mem_replicate c)
      have hfraction : ∀ c ∈ ['0'], isDigit c := List.forall_mem_singleton.mpr isDigit_zero
      rw [ofChars?_point negative (by simp [hne]) hwhole hfraction]
    · dsimp only
      have hpadded : ∀ c ∈ padLeft ((-s.power).toNat + 1) (digitsOfNat s.coefficient), isDigit c :=
        isDigit_of_mem_padLeft hdigits
      have hlength := length_padLeft ((-s.power).toNat + 1) (digitsOfNat s.coefficient)
      generalize padLeft ((-s.power).toNat + 1) (digitsOfNat s.coefficient) = padded at *
      have hwhole : padded.take (padded.length - (-s.power).toNat) ≠ [] := by
        rw [← List.length_pos_iff, List.length_take]
        omega
      rw [ofChars?_point negative hwhole (fun c hc => hpadded c (List.mem_of_mem_take hc))
        fun c hc => hpadded c (List.mem_of_mem_drop hc)]
  · have hpoint : (if (digitsOfNat s.coefficient).tail.isEmpty then []
        else '.' :: (digitsOfNat s.coefficient).tail) =
        pointText (if (digitsOfNat s.coefficient).tail.isEmpty then none
          else some (digitsOfNat s.coefficient).tail) := by
      split <;> rfl
    have hfirst : (digitsOfNat s.coefficient).take 1 ≠ [] := by simpa using hne
    have hfraction : ∀ c ∈ (if (digitsOfNat s.coefficient).tail.isEmpty then none
        else some (digitsOfNat s.coefficient).tail).getD [], isDigit c := by
      split
      · simp
      · exact fun c hc => hdigits c (List.mem_of_mem_tail hc)
    have h := ofChars?_exponent negative hmark hfirst
      (fun c hc => hdigits c (List.mem_of_mem_take hc)) hfraction s.exponent
    unfold scientific
    dsimp only
    rw [List.drop_one, hpoint]
    rw [exponentText] at h
    simpa only [List.append_assoc] using h

variable {style s}

theorem numeral_negative : (style.numeral negative s).negative = negative := by
  unfold numeral
  dsimp only
  split
  · split <;> rfl
  · rfl

theorem isDigit_numeral (hmark : style.mark = 'e' ∨ style.mark = 'E') :
    ∀ c ∈ (style.numeral negative s).digits, isDigit c :=
  isDigit_of_ofChars? (ofChars?_render style negative s hmark)

theorem numeral_of_nonneg (hplain : style.IsPlain s) (hp : 0 ≤ s.power) :
    (style.numeral negative s).exponent = none ∧
      (style.numeral negative s).coefficient = s.coefficient * 10 ^ s.power.toNat * 10 ∧
      (style.numeral negative s).places = 1 := by
  unfold numeral
  dsimp only
  rw [if_pos hplain, if_pos hp]
  refine ⟨rfl, ?_, rfl⟩
  rw [coefficient, digits, Option.getD_some, natOfDigits_concat, natOfDigits_append,
    natOfDigits_replicate, natOfDigits_digitsOfNat, List.length_replicate, Nat.mul_comm 10]
  rfl

theorem numeral_of_neg (hplain : style.IsPlain s) (hp : s.power < 0) :
    (style.numeral negative s).exponent = none ∧
      (style.numeral negative s).coefficient = s.coefficient ∧
      (style.numeral negative s).places = (-s.power).toNat := by
  have hlength := length_padLeft ((-s.power).toNat + 1) (digitsOfNat s.coefficient)
  have hvalue := natOfDigits_padLeft ((-s.power).toNat + 1) (digitsOfNat s.coefficient)
  unfold numeral
  dsimp only
  rw [if_pos hplain, if_neg (not_le.mpr hp)]
  generalize padLeft ((-s.power).toNat + 1) (digitsOfNat s.coefficient) = padded at *
  refine ⟨rfl, ?_, ?_⟩
  · rw [coefficient, digits, Option.getD_some, List.take_append_drop, hvalue,
      natOfDigits_digitsOfNat]
  · rw [places, Option.getD_some, List.length_drop]
    omega

theorem numeral_scientific (hplain : ¬style.IsPlain s) :
    (style.numeral negative s).exponent = some s.exponent ∧
      (style.numeral negative s).coefficient = s.coefficient ∧
      (style.numeral negative s).places = (digitsOfNat s.coefficient).length - 1 := by
  have hfraction : (if ((digitsOfNat s.coefficient).drop 1).isEmpty then none
      else some ((digitsOfNat s.coefficient).drop 1)).getD [] = (digitsOfNat s.coefficient).drop 1 := by
    split
    · rename_i hnil
      exact (List.isEmpty_iff.mp hnil).symm
    · rfl
  unfold numeral
  dsimp only
  rw [if_neg hplain]
  refine ⟨rfl, ?_, ?_⟩
  · rw [coefficient, digits, hfraction, List.take_append_drop, natOfDigits_digitsOfNat]
  · rw [places, hfraction, List.length_drop]

theorem magnitude_numeral : (style.numeral negative s).magnitude = s.value := by
  have hlength := length_digitsOfNat_pos s.coefficient
  by_cases hplain : style.IsPlain s
  · rcases lt_or_ge s.power 0 with hp | hp
    · obtain ⟨he, hc, hplaces⟩ := numeral_of_neg negative hplain hp
      have hpower : (style.numeral negative s).power = s.power := by
        rw [power, he, hplaces, Option.getD_none]
        omega
      rw [magnitude, hc, hpower, ShortDecimal.value]
    · obtain ⟨he, hc, hplaces⟩ := numeral_of_nonneg negative hplain hp
      have hpower : (style.numeral negative s).power = -1 := by
        rw [power, he, hplaces, Option.getD_none]
        rfl
      obtain ⟨k, hk⟩ := Int.eq_ofNat_of_zero_le hp
      have hten : (10 : ℚ) ^ (-1 : ℤ) = 1 / 10 := by norm_num
      rw [magnitude, hc, hpower, ShortDecimal.value, hk, Int.toNat_natCast, zpow_natCast, hten]
      push_cast
      ring
  · obtain ⟨he, hc, hplaces⟩ := numeral_scientific negative hplain
    have hpower : (style.numeral negative s).power = s.power := by
      rw [power, he, hplaces, Option.getD_some, ShortDecimal.exponent]
      omega
    rw [magnitude, hc, hpower, ShortDecimal.value]

end RealStyle

theorem ShortDecimal.value_lt (s : ShortDecimal) : s.value < 10 ^ (s.exponent + 1) := by
  have hlt : (s.coefficient : ℚ) < 10 ^ (digitsOfNat s.coefficient).length := by
    exact_mod_cast lt_pow_length_digitsOfNat s.coefficient
  have he : s.exponent + 1 = ((digitsOfNat s.coefficient).length : ℤ) + s.power := by
    unfold exponent
    ring
  rw [value, he, zpow_add₀ (by norm_num), zpow_natCast]
  exact mul_lt_mul_of_pos_right hlt (by positivity)

theorem ShortDecimal.le_value {s : ShortDecimal} (h : 0 < s.coefficient) :
    10 ^ s.exponent ≤ s.value := by
  have hle : (10 : ℚ) ^ ((digitsOfNat s.coefficient).length - 1) ≤ s.coefficient := by
    exact_mod_cast pow_length_digitsOfNat_le h
  have hpos := length_digitsOfNat_pos s.coefficient
  have he : s.exponent = (((digitsOfNat s.coefficient).length - 1 : ℕ) : ℤ) + s.power := by
    unfold exponent
    omega
  rw [value, he, zpow_add₀ (by norm_num), zpow_natCast]
  exact mul_le_mul_of_nonneg_right hle (by positivity)

end Questionnaire.Number
