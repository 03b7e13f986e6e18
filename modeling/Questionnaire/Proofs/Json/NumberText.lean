import Questionnaire.Proofs.Json.ShortNumeral
import Questionnaire.Proofs.Number.Reading

namespace Questionnaire

open Number

namespace Text

/-- Stripping removes what stands around the part without characters of the class. -/
theorem strip_append {p : Char → Bool} {before core after : List Char}
    (hbefore : ∀ c ∈ before, p c) (hafter : ∀ c ∈ after, p c) (hcore : ∀ c ∈ core, ¬p c) :
    strip p (before ++ core ++ after) = core := by
  cases core with
  | nil =>
    have hall : ∀ c ∈ before ++ [] ++ after, p c := by
      rw [List.append_nil]
      exact List.forall_mem_append.mpr ⟨hbefore, hafter⟩
    rw [strip, List.dropWhile_eq_nil_iff.mpr hall]
    rfl
  | cons c core =>
    have hfirst : ∀ x ∈ (c :: core ++ after).head?, ¬p x := by
      rintro x ⟨⟩
      exact hcore c List.mem_cons_self
    have hlast : ∀ x ∈ (c :: core).reverse.head?, ¬p x := by
      intro x hx
      exact hcore x (List.mem_reverse.mp (List.mem_of_mem_head? hx))
    have hafter' : ∀ x ∈ after.reverse, p x := by
      intro x hx
      exact hafter x (List.mem_reverse.mp hx)
    rw [strip, List.append_assoc, dropWhile_append_of_head hbefore hfirst, List.reverse_append,
      dropWhile_append_of_head hafter' hlast, List.reverse_reverse]

theorem exists_strip (p : Char → Bool) (cs : List Char) :
    ∃ before after, cs = before ++ strip p cs ++ after ∧ (∀ c ∈ before, p c) ∧ ∀ c ∈ after, p c := by
  have hfront := List.takeWhile_append_dropWhile (p := p) (l := cs)
  have hback := List.takeWhile_append_dropWhile (p := p) (l := (cs.dropWhile p).reverse)
  refine ⟨cs.takeWhile p, ((cs.dropWhile p).reverse.takeWhile p).reverse, ?_, ?_, ?_⟩
  · rw [strip, List.append_assoc, ← List.reverse_append, hback, List.reverse_reverse, hfront]
  · intro c hc
    exact List.mem_takeWhile_imp hc
  · intro c hc
    exact List.mem_takeWhile_imp (List.mem_reverse.mp hc)

theorem strip_eq_self {p : Char → Bool} {cs : List Char} (h : ∀ c ∈ cs, ¬p c) : strip p cs = cs := by
  have hstrip := strip_append (List.forall_mem_nil _) (List.forall_mem_nil _) h
  rwa [List.nil_append, List.append_nil] at hstrip

theorem not_isAsciiBlank_of_isDigit {c : Char} (h : isDigit c) : ¬isAsciiBlank c := by
  simp only [isDigit, Bool.and_eq_true, decide_eq_true_eq] at h
  have h0 : '0'.toNat ≤ c.toNat := h.1
  simp only [isAsciiBlank, Bool.or_eq_true, Bool.and_eq_true, decide_eq_true_eq]
  rintro (rfl | hc)
  · exact absurd h0 (by decide)
  · have hzero : '0'.toNat = 48 := rfl
    omega

end Text

namespace Json

/-- A text that both readers of numbers take for the same numeral. -/
def Writes (s : String) (n : Numeral) : Prop :=
  Numeral.ofChars? s.toList = some n ∧ Numeral.ofText? s = some n

theorem writes_of_ofChars? {s : String} {n : Numeral} (h : Numeral.ofChars? s.toList = some n)
    (hink : ∀ c ∈ s.toList, ¬Text.isAsciiBlank c) : Writes s n :=
  ⟨h, by rw [Numeral.ofText?, Text.strip_eq_self hink, h]⟩

theorem Writes.decimal_ofText? {s : String} {n : Numeral} (h : Writes s n) :
    Decimal.ofText? s = Decimal.ofNumeral? n := by
  rw [Decimal.ofText?, h.1, Option.bind_some]

theorem not_blank_minus : ∀ c ∈ ['-'], ¬Text.isAsciiBlank c :=
  List.forall_mem_singleton.mpr (by decide)

theorem not_blank_plus : ∀ c ∈ ['+'], ¬Text.isAsciiBlank c :=
  List.forall_mem_singleton.mpr (by decide)

theorem not_blank_point : ¬Text.isAsciiBlank '.' := by decide

theorem not_blank_zero : ∀ c ∈ ['0'], ¬Text.isAsciiBlank c :=
  List.forall_mem_singleton.mpr (by decide)

theorem not_blank_signText (b : Bool) : ∀ c ∈ Numeral.signText b, ¬Text.isAsciiBlank c := by
  cases b
  · exact List.forall_mem_nil _
  · exact not_blank_minus

theorem not_blank_digits {ds : List Char} (h : ∀ c ∈ ds, isDigit c) :
    ∀ c ∈ ds, ¬Text.isAsciiBlank c :=
  fun c hc => Text.not_isAsciiBlank_of_isDigit (h c hc)

theorem not_blank_integerText (i : ℤ) : ∀ c ∈ (integerText i).toList, ¬Text.isAsciiBlank c := by
  rw [integerText, String.toList_ofList]
  refine List.forall_mem_append.mpr ⟨?_, not_blank_digits isDigit_of_mem_digitsOfNat⟩
  split
  · exact not_blank_minus
  · exact List.forall_mem_nil _

theorem not_blank_render (s : ShortDecimal) : ∀ c ∈ realStyle.render s, ¬Text.isAsciiBlank c := by
  have hdigits := not_blank_digits (isDigit_of_mem_digitsOfNat (n := s.coefficient))
  unfold RealStyle.render
  dsimp only
  split
  · unfold RealStyle.plain
    split
    · exact List.forall_mem_append.mpr ⟨List.forall_mem_append.mpr
        ⟨hdigits, not_blank_digits isDigit_of_mem_replicate⟩,
        List.forall_mem_cons.mpr ⟨not_blank_point, not_blank_zero⟩⟩
    · have hpadded : ∀ c ∈ padLeft ((-s.power).toNat + 1) (digitsOfNat s.coefficient),
          ¬Text.isAsciiBlank c :=
        not_blank_digits (isDigit_of_mem_padLeft isDigit_of_mem_digitsOfNat)
      refine List.forall_mem_append.mpr ⟨fun c hc => hpadded c (List.mem_of_mem_take hc), ?_⟩
      exact List.forall_mem_cons.mpr ⟨not_blank_point, fun c hc => hpadded c (List.mem_of_mem_drop hc)⟩
  · unfold RealStyle.scientific
    dsimp only
    refine List.forall_mem_append.mpr ⟨List.forall_mem_append.mpr
      ⟨List.forall_mem_append.mpr ⟨fun c hc => hdigits c (List.mem_of_mem_take hc), ?_⟩, ?_⟩,
      not_blank_integerText _⟩
    · split
      · exact List.forall_mem_nil _
      · exact List.forall_mem_cons.mpr ⟨not_blank_point, fun c hc => hdigits c (List.mem_of_mem_drop hc)⟩
    · refine List.forall_mem_cons.mpr ⟨by decide, ?_⟩
      split
      · exact not_blank_plus
      · exact List.forall_mem_nil _

theorem toList_text_real (x : Finite64) :
    (Number.real x).text.toList = Numeral.signText x.negative ++
      (match x.magnitude.shortest? with
      | some s => realStyle.render s
      | none => ['0', '.', '0']) := by
  rw [Number.text, Finite64.text, String.toList_ofList]
  cases x.negative <;> rfl

/-- The numeral of an integer. -/
def integerNumeral (i : ℤ) : Numeral := ⟨decide (i < 0), digitsOfNat i.natAbs, none, none⟩

/-- The numeral of a zero, with its sign. -/
def zeroNumeral (negative : Bool) : Numeral := ⟨negative, ['0'], some ['0'], none⟩

theorem writes_integer (i : ℤ) (h : minInteger ≤ i ∧ i ≤ maxInteger) :
    Writes (Number.integer i h).text (integerNumeral i) := by
  refine writes_of_ofChars? ?_ (not_blank_integerText i)
  have hdigits := isDigit_of_mem_digitsOfNat (n := i.natAbs)
  have hnone : ∀ c ∈ (none : Option (List Char)).getD [], isDigit c := by simp
  have hread := Numeral.ofChars?_digits (decide (i < 0)) (digitsOfNat_ne_nil i.natAbs) hdigits hnone
  rw [Numeral.pointText, List.append_nil] at hread
  rw [integerNumeral, Number.text, integerText, String.toList_ofList, ← hread, Numeral.signText]
  simp only [decide_eq_true_eq]

theorem writes_zero {x : Finite64} (h : x.magnitude.units = 0) :
    Writes (Number.real x).text (zeroNumeral x.negative) := by
  have htext := toList_text_real x
  rw [Binary64.Magnitude.shortest?_eq_none.mpr h] at htext
  refine writes_of_ofChars? ?_ ?_
  · rw [htext]
    cases x.negative <;> decide
  · rw [htext]
    exact List.forall_mem_append.mpr ⟨not_blank_signText _, List.forall_mem_cons.mpr
      ⟨by decide, List.forall_mem_cons.mpr ⟨not_blank_point, not_blank_zero⟩⟩⟩

theorem writes_real {x : Finite64} {s : ShortDecimal} (h : x.magnitude.shortest? = some s) :
    Writes (Number.real x).text (realStyle.numeral x.negative s) := by
  have htext := toList_text_real x
  rw [h] at htext
  refine writes_of_ofChars? ?_ ?_
  · rw [htext]
    exact realStyle.ofChars?_render x.negative s (.inl rfl)
  · rw [htext]
    exact List.forall_mem_append.mpr ⟨not_blank_signText _, not_blank_render s⟩

theorem coefficient_integerNumeral (i : ℤ) : (integerNumeral i).coefficient = i.natAbs := by
  rw [integerNumeral, Numeral.coefficient, Numeral.digits, Option.getD_none, List.append_nil,
    natOfDigits_digitsOfNat]

theorem exists_decimal_integer {i : ℤ} (h : minInteger ≤ i ∧ i ≤ maxInteger) :
    ∃ d : Decimal, Decimal.ofNumeral? (integerNumeral i) = some d ∧
      (integerNumeral i).decimal? = some d ∧ d.value = i ∧ d.scale = 0 := by
  have hi : i.natAbs < Decimal.coefficientBound := by
    have hbound : Decimal.coefficientBound = 2 ^ 96 := rfl
    unfold minInteger maxInteger at h
    omega
  have hcoef := coefficient_integerNumeral i
  have hdigits : ∀ c ∈ (integerNumeral i).digits, isDigit c := by
    rw [integerNumeral, Numeral.digits, Option.getD_none, List.append_nil]
    exact isDigit_of_mem_digitsOfNat
  have hneg : (integerNumeral i).negative = decide (i < 0) := rfl
  have hexp : (integerNumeral i).exponent = none := rfl
  have hplaces : (integerNumeral i).places = 0 := rfl
  have hpower : (integerNumeral i).power = 0 := rfl
  obtain ⟨d, hd, -, hscale, hvalue⟩ := Decimal.exists_of? (decide (i < 0)) hi (Nat.zero_le _)
  refine ⟨d, ?_, ?_, by rw [hvalue, pow_zero, div_one, signed_natAbs], hscale⟩
  · rw [Decimal.ofNumeral?_eq hdigits (by rwa [hcoef]) (Nat.zero_le _), Decimal.shifted?, hexp,
      hcoef, hplaces, hneg, Option.bind_some]
    exact hd
  · have hlimit : ¬(Numeral.maxExactExponent < ((integerNumeral i).exponent.getD 0).natAbs ∨
        Numeral.coefficientLimit ≤ (integerNumeral i).coefficient) := by
      have hbound : Decimal.coefficientBound ≤ Numeral.coefficientLimit :=
        Nat.pow_le_pow_right (by decide) (by decide)
      rw [hexp, hcoef, Option.getD_none]
      omega
    rw [Numeral.decimal?, if_neg hlimit, hpower, hcoef, hneg]
    simpa using hd

theorem exists_decimal_zero (b : Bool) :
    ∃ d : Decimal, Decimal.ofNumeral? (zeroNumeral b) = some d ∧
      (zeroNumeral b).decimal? = some d ∧ d.coefficient = 0 := by
  refine ⟨⟨0, 1, by decide, by decide⟩, ?_, ?_, rfl⟩
  · cases b <;> decide
  · cases b <;> decide

theorem toBinary64_numeral {x : Finite64} {s : ShortDecimal}
    (h : x.magnitude.shortest? = some s) :
    (realStyle.numeral x.negative s).toBinary64 = .finite x := by
  have hunits : Binary64.nearestUnits (s.value * Binary64.one) = x.magnitude.units :=
    Binary64.amount_inj.mp (Binary64.Magnitude.nearest_of_shortest? h)
  rw [Numeral.toBinary64_eq (RealStyle.isDigit_numeral x.negative (.inl rfl)),
    RealStyle.magnitude_numeral, RealStyle.numeral_negative, hunits,
    Binary64.ofUnits_of_lt x.magnitude.onGrid x.magnitude.bounded]

end Json

end Questionnaire
