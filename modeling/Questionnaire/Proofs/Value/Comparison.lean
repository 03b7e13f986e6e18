import Questionnaire.Value
import Questionnaire.Proofs.Number.Reading

namespace Questionnaire

open Number

namespace Number

theorem ne_gt_of_le {a b : ℚ} (h : a ≤ b) : compare a b ≠ .gt := by
  rw [Ne, compare_gt_iff_gt]
  exact not_lt.mpr h

/-- The distance from which on readings of different kinds are in the order of the numbers. -/
def margin (x y : ℚ) : ℚ := 1 / 10 ^ Decimal.maxScale + max |x| |y| / 2 ^ 49

/-- The approximation of a decimal, cut from a number, is within the margin of that number. -/
theorem approximation_near {d : Decimal} {f : Finite64} {a b : ℚ}
    (hd : d.value = cut Decimal.maxScale a) (hf : |f.value - d.value| ≤ |d.value| / 2 ^ 49)
    (hab : |a| ≤ b) : |f.value - a| ≤ 1 / 10 ^ Decimal.maxScale + b / 2 ^ 49 := by
  have hcut : |d.value - a| ≤ 1 / 10 ^ Decimal.maxScale := hd ▸ abs_cut_sub_le _ a
  have habs : |d.value| ≤ |a| := hd ▸ abs_cut_le _ a
  have hsplit : f.value - a = (d.value - a) + (f.value - d.value) := by ring
  calc |f.value - a| ≤ |d.value - a| + |f.value - d.value| := hsplit ▸ abs_add_le _ _
    _ ≤ 1 / 10 ^ Decimal.maxScale + |d.value| / 2 ^ 49 := add_le_add hcut hf
    _ ≤ 1 / 10 ^ Decimal.maxScale + b / 2 ^ 49 := by gcongr; exact habs.trans hab

theorem Reading.compare?_ne_gt {n m : Numeral} {x y : Reading} (hn : ∀ c ∈ n.digits, isDigit c)
    (hm : ∀ c ∈ m.digits, isDigit c) (hx : n.reading? = some x) (hy : m.reading? = some y)
    (hlt : n.value < m.value)
    (h : x.isExact = y.isExact ∨ margin n.value m.value ≤ m.value - n.value) :
    ∃ o, x.compare? y = some o ∧ o ≠ .gt := by
  rcases Numeral.reading?_cases hn hx with ⟨d, rfl, hd⟩ | ⟨f, rfl, hf⟩
  · rcases Numeral.reading?_cases hm hy with ⟨e, rfl, he⟩ | ⟨g, rfl, hg⟩
    · refine ⟨_, congrArg some (d.compare_eq e), ne_gt_of_le ?_⟩
      rw [hd, he]
      exact cut_mono _ hlt.le
    · have hgap := h.resolve_left (by simp [isExact])
      obtain ⟨f, hf, hclose⟩ := d.toBinary64_close
      have hnear := (abs_le.mp (approximation_near hd hclose (le_max_left _ |m.value|))).2
      refine ⟨_, ?_, ne_gt_of_le (?_ : f.value ≤ g.value)⟩
      · rw [compare?, toBinary64, toBinary64, hf, Finite64.compare?_eq]
        simp
      · rw [← f.rounded_value, hg]
        refine Binary64.rounded_mono ?_
        unfold margin at hgap
        linarith
  · rcases Numeral.reading?_cases hm hy with ⟨e, rfl, he⟩ | ⟨g, rfl, hg⟩
    · have hgap := h.resolve_left (by simp [isExact])
      obtain ⟨g, hg, hclose⟩ := e.toBinary64_close
      have hnear := (abs_le.mp (approximation_near he hclose (le_max_right |n.value| _))).1
      refine ⟨_, ?_, ne_gt_of_le (?_ : f.value ≤ g.value)⟩
      · rw [compare?, toBinary64, toBinary64, hg, Finite64.compare?_eq]
        simp
      · rw [← g.rounded_value, hf]
        refine Binary64.rounded_mono ?_
        unfold margin at hgap
        linarith
    · refine ⟨_, Finite64.compare?_eq f g, ne_gt_of_le ?_⟩
      rw [hf, hg]
      exact Binary64.rounded_mono hlt.le

end Number

namespace Value

theorem reading?_text {s : String} {n : Numeral} (h : Numeral.ofText? s = some n) :
    (Value.text s).reading? = n.reading? := by
  rw [reading?, Reading.ofText?_eq, h, Option.bind_some]

theorem compares_of_readings {l r : Value} {x y : Reading} (hx : l.reading? = some x)
    (hy : r.reading? = some y) (test : OrderTest) :
    compares test l r = (x.compare? y).any test.holds := by
  simp only [compares, hx, hy]

theorem compares_flip (test : OrderTest) (l r : Value) :
    compares test l r = compares test.flip r l := by
  unfold compares
  cases l.reading? with
  | none => cases r.reading? <;> rfl
  | some x =>
    cases r.reading? with
    | none => rfl
    | some y =>
      dsimp only
      rw [← Reading.compare?_swap x y]
      cases x.compare? y with
      | none => rfl
      | some o => exact (test.flip_holds_swap o).symm

theorem compares_greater_eq (l r : Value) : compares .greater l r = compares .less r l :=
  compares_flip .greater l r

/-- Two texts that are read the same way, or write numbers that are not too close, never compare
against the order of the numbers. -/
theorem compares_text_of_lt {s t : String} {n m : Numeral} {x y : Reading}
    (hn : Numeral.ofText? s = some n) (hm : Numeral.ofText? t = some m)
    (hx : n.reading? = some x) (hy : m.reading? = some y) (hlt : n.value < m.value)
    (h : x.isExact = y.isExact ∨ margin n.value m.value ≤ m.value - n.value) :
    compares .greater (.text s) (.text t) = false ∧ compares .less (.text t) (.text s) = false := by
  have hs : (Value.text s).reading? = some x := (reading?_text hn).trans hx
  have ht : (Value.text t).reading? = some y := (reading?_text hm).trans hy
  obtain ⟨o, ho, hne⟩ := Reading.compare?_ne_gt (Numeral.isDigit_of_ofText? hn)
    (Numeral.isDigit_of_ofText? hm) hx hy hlt h
  have hgreater : compares .greater (.text s) (.text t) = false := by
    rw [compares_of_readings hs ht, ho, Option.any_some, OrderTest.holds]
    exact beq_eq_false_iff_ne.mpr hne
  exact ⟨hgreater, by rw [← compares_greater_eq, hgreater]⟩

theorem compares_text_of_margin :
    compares .greater (.text "1e-70") (.text "3e-27") = false ∧
      compares .less (.text "3e-27") (.text "1e-70") = false := by
  have hn : Numeral.ofText? "1e-70" = some ⟨false, ['1'], none, some (-70)⟩ := by decide
  have hm : Numeral.ofText? "3e-27" = some ⟨false, ['3'], none, some (-27)⟩ := by decide
  have hx : (Numeral.mk false ['1'] none (some (-70))).reading? =
      some (.approximate (Numeral.mk false ['1'] none (some (-70))).toBinary64) := by decide +kernel
  have hy : (Numeral.mk false ['3'] none (some (-27))).reading? =
      some (.exact ⟨3, 27, by decide, by decide⟩) := by decide
  have hnv : (Numeral.mk false ['1'] none (some (-70))).value = 1 * 10 ^ (-70 : ℤ) := rfl
  have hmv : (Numeral.mk false ['3'] none (some (-27))).value = 3 * 10 ^ (-27 : ℤ) := rfl
  refine compares_text_of_lt hn hm hx hy ?_ (.inr ?_)
  · rw [hnv, hmv]
    norm_num
  · rw [hnv, hmv, margin, Decimal.maxScale, abs_of_pos (by positivity), abs_of_pos (by positivity)]
    norm_num

/-- Close to zero the order can be lost: one text is read as zero, and the other one, although it
writes the smaller number, as a positive number. -/
theorem compares_text_against_order :
    ∃ n m, Numeral.ofText? "1e-70" = some n ∧ Numeral.ofText? "3e-29" = some m ∧
      n.value < m.value ∧ compares .greater (.text "1e-70") (.text "3e-29") = true := by
  have hx : (Value.text "1e-70").reading? =
      some (.approximate (Numeral.mk false ['1'] none (some (-70))).toBinary64) := by decide +kernel
  have hy : (Value.text "3e-29").reading? = some (.exact ⟨0, 28, by decide, by decide⟩) := by
    decide +kernel
  have hgt : Binary64.compare? (Numeral.mk false ['1'] none (some (-70))).toBinary64
      (Decimal.mk 0 28 (by decide) (by decide)).toBinary64 = some .gt := by decide +kernel
  refine ⟨⟨false, ['1'], none, some (-70)⟩, ⟨false, ['3'], none, some (-29)⟩, by decide, by decide,
    ?_, ?_⟩
  · change (1 : ℚ) * 10 ^ (-70 : ℤ) < 3 * 10 ^ (-29 : ℤ)
    norm_num
  · rw [compares_of_readings hx hy, Reading.compare?, Reading.toBinary64, Reading.toBinary64, hgt]
    · rfl
    · simp

end Value

end Questionnaire
