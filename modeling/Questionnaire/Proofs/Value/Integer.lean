import Questionnaire.Coercion
import Questionnaire.Proofs.Number.Closest
import Questionnaire.Proofs.Value.Comparison

namespace Questionnaire

open Number

namespace Number

/-- The number whose integer part a reading has: the one that is written, if the reading is exact
(although its last places may be cut off), and the binary64 number nearest to it otherwise. -/
def Reading.Stands (x : Reading) (written : ℚ) (y : ℚ) : Prop :=
  match x with
  | .exact _ => y = written
  | .approximate b => ∃ f, b = .finite f ∧ f.IsNearest written ∧ y = f.value

/-- The signed 64-bit integer that a rational is cut to. -/
def integerPart? (y : ℚ) : Option Int64 :=
  if -2 ^ 63 ≤ truncate y ∧ truncate y < 2 ^ 63 then some (Int64.ofInt (truncate y)) else none

theorem Numeral.toInt64?_reading {n : Numeral} {x : Reading} (hd : ∀ c ∈ n.digits, isDigit c)
    (h : n.reading? = some x) : ∃ y, x.Stands n.value y ∧ x.toInt64? = integerPart? y := by
  rcases n.reading?_cases hd h with ⟨d, rfl, hvalue⟩ | ⟨f, rfl, hvalue⟩
  · refine ⟨n.value, rfl, ?_⟩
    rw [Reading.toInt64?, Decimal.toInt64?, integerPart?, ← d.truncate_value, hvalue, truncate_cut]
  · refine ⟨f.value, ⟨f, rfl, Finite64.isNearest_of_value_eq hvalue, rfl⟩, ?_⟩
    rw [Reading.toInt64?, Binary64.toInt64?, integerPart?, f.truncate_value]

end Number

theorem coerce_integer_of_some {v : Value} {x : Reading} {i : Int64} (hv : v.reading? = some x)
    (hi : x.toInt64? = some i) (hnull : v.isNull = false) :
    coerce .integer v = .ok (some (.int i)) := by
  simp only [coerce, hnull, Bool.false_eq_true, if_false, coerceInteger, hv, Option.bind_some, hi]

theorem coerce_integer_of_none {v : Value} {x : Reading} (hv : v.reading? = some x)
    (hi : x.toInt64? = none) (hnull : v.isNull = false) : coerce .integer v = .ok (some v) := by
  simp only [coerce, hnull, Bool.false_eq_true, if_false, coerceInteger, hv, Option.bind_some, hi]

/-- A numeral is cut to an integer toward zero; a text whose integer does not fit is kept. -/
theorem coerce_integer_text {s : String} {n : Numeral} {x : Reading}
    (hn : Numeral.ofText? s = some n) (hx : n.reading? = some x) :
    ∃ y, x.Stands n.value y ∧
      coerce .integer (.text s) = .ok (some
        (if -2 ^ 63 ≤ truncate y ∧ truncate y < 2 ^ 63 then .int (Int64.ofInt (truncate y))
        else .text s)) := by
  obtain ⟨y, hy, hint⟩ := Numeral.toInt64?_reading (Numeral.isDigit_of_ofText? hn) hx
  have hs : (Value.text s).reading? = some x := (Value.reading?_text hn).trans hx
  refine ⟨y, hy, ?_⟩
  unfold integerPart? at hint
  by_cases hfits : -2 ^ 63 ≤ truncate y ∧ truncate y < 2 ^ 63
  · rw [if_pos hfits] at hint ⊢
    exact coerce_integer_of_some hs hint rfl
  · rw [if_neg hfits] at hint ⊢
    exact coerce_integer_of_none hs hint rfl

theorem coerce_integer_text_exact :
    ∃ y, Reading.Stands (.exact ⟨-1275, 2, by decide, by decide⟩)
        (Numeral.mk true ['1', '2'] (some ['7', '5']) none).value y ∧
      coerce .integer (.text "-12.75") = .ok (some
        (if -2 ^ 63 ≤ truncate y ∧ truncate y < 2 ^ 63 then .int (Int64.ofInt (truncate y))
        else .text "-12.75")) :=
  coerce_integer_text (by decide) (by decide)

/-- Too many digits for a decimal: the nearest binary64 number has the next integer. -/
theorem coerce_integer_text_rounded_up :
    ∃ n, Numeral.ofText? "9007199254740993.00000000000001" = some n ∧
      truncate n.value = 9007199254740993 ∧
      coerce .integer (.text "9007199254740993.00000000000001") =
        .ok (some (.int 9007199254740994)) := by
  have hx : ((Value.text "9007199254740993.00000000000001").reading?.bind Reading.toInt64?) =
      some 9007199254740994 := by decide +kernel
  obtain ⟨x, hread, hint⟩ := Option.bind_eq_some_iff.mp hx
  refine ⟨⟨false, "9007199254740993".toList, some "00000000000001".toList, none⟩, by decide, ?_,
    coerce_integer_of_some hread hint rfl⟩
  have hvalue : (Numeral.mk false "9007199254740993".toList (some "00000000000001".toList)
      none).value = 900719925474099300000000000001 * 10 ^ (-14 : ℤ) := by
    rfl
  rw [hvalue, truncate, if_pos (by positivity), Int.floor_eq_iff]
  norm_num

end Questionnaire
