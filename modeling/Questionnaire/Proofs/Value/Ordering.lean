import Questionnaire.Proofs.Value.Comparison

namespace Questionnaire

open Number

/-- Four tests that say which one of three outcomes there is; the third is that both of the tests
that are not strict hold. -/
structure Trichotomy (greater less greaterOrEqual lessOrEqual : Prop) : Prop where
  exactly_one : (greater ∧ ¬less ∧ ¬(greaterOrEqual ∧ lessOrEqual)) ∨
    (¬greater ∧ less ∧ ¬(greaterOrEqual ∧ lessOrEqual)) ∨
    (¬greater ∧ ¬less ∧ greaterOrEqual ∧ lessOrEqual)
  greaterOrEqual_iff : greaterOrEqual ↔ greater ∨ (greaterOrEqual ∧ lessOrEqual)
  lessOrEqual_iff : lessOrEqual ↔ less ∨ (greaterOrEqual ∧ lessOrEqual)

theorem Number.OrderTest.trichotomy (o : Ordering) :
    Trichotomy (OrderTest.greater.holds o = true) (OrderTest.less.holds o = true)
      (OrderTest.greaterOrEqual.holds o = true) (OrderTest.lessOrEqual.holds o = true) := by
  cases o with
  | lt => exact ⟨by decide, by decide, by decide⟩
  | eq => exact ⟨by decide, by decide, by decide⟩
  | gt => exact ⟨by decide, by decide, by decide⟩

namespace Value

/-- The value has a numeric reading that is a number. -/
def IsNumber (v : Value) : Prop := ∃ x, v.reading? = some x ∧ ¬x.IsNan

/-- The order of two values, if both are numbers. -/
def order? (l r : Value) : Option Ordering :=
  l.reading?.bind fun x => r.reading?.bind x.compare?

section

variable {l r : Value}

theorem order?_of_readings {x y : Reading} (hx : l.reading? = some x) (hy : r.reading? = some y) :
    l.order? r = x.compare? y := by
  rw [order?, hx, Option.bind_some, hy, Option.bind_some]

theorem exists_order?_iff : (∃ o, l.order? r = some o) ↔ l.IsNumber ∧ r.IsNumber := by
  constructor
  · rintro ⟨o, ho⟩
    obtain ⟨x, hx, hbind⟩ := Option.bind_eq_some_iff.mp ho
    obtain ⟨y, hy, hxy⟩ := Option.bind_eq_some_iff.mp hbind
    have hnan : ¬(x.IsNan ∨ y.IsNan) := by
      rw [← Reading.compare?_eq_none_iff, hxy]
      exact nofun
    rw [not_or] at hnan
    exact ⟨⟨x, hx, hnan.1⟩, ⟨y, hy, hnan.2⟩⟩
  · rintro ⟨⟨x, hx, hxnan⟩, ⟨y, hy, hynan⟩⟩
    rw [order?_of_readings hx hy, ← Option.ne_none_iff_exists', Ne, Reading.compare?_eq_none_iff]
    exact not_or.mpr ⟨hxnan, hynan⟩

theorem order?_of_exact {d e : Decimal} (hd : l.reading? = some (.exact d))
    (he : r.reading? = some (.exact e)) : l.order? r = some (compare d.value e.value) := by
  rw [order?_of_readings hd he, Reading.compare?, d.compare_eq]

/-- Equal values are equal in the order, if it knows them. Equality goes by the constructors, so
there is one case for each constructor that has a reading. -/
theorem order?_of_equal (h : l.equal r = true) (hl : l.isNumeric = true) :
    l.order? r = some .eq := by
  obtain ⟨x, hx⟩ := Option.isSome_iff_exists.mp hl
  cases l with
  | int a =>
    cases r with
    | int b =>
      cases (beq_iff_eq.mp h : a = b)
      exact (order?_of_readings rfl rfl).trans (Reading.compare?_self nofun)
    | _ => cases h
  | decimal a =>
    cases r with
    | decimal b =>
      have hvalue : a.compare b = .eq := beq_iff_eq.mp h
      rw [order?_of_readings rfl rfl, Reading.compare?, hvalue]
    | _ => cases h
  | float a =>
    cases r with
    | float b =>
      have hvalue : a.compare? b = some .eq := beq_iff_eq.mp h
      rw [order?_of_readings rfl rfl]
      exact hvalue
    | _ => cases h
  | text a =>
    cases r with
    | text b =>
      cases (beq_iff_eq.mp h : a = b)
      exact (order?_of_readings hx hx).trans (Reading.compare?_self (Reading.not_isNan_of_ofText? hx))
    | _ => cases h
  | _ => cases hx

theorem compares_eq (test : OrderTest) (l r : Value) :
    compares test l r = (l.order? r).any test.holds := by
  unfold compares order?
  cases l.reading? with
  | none => rfl
  | some x => cases r.reading? <;> rfl

theorem compares_of_order? {o : Ordering} (h : l.order? r = some o) (test : OrderTest) :
    compares test l r = test.holds o := by
  rw [compares_eq, h, Option.any_some]

theorem compares_of_not_number (h : ¬(l.IsNumber ∧ r.IsNumber)) (test : OrderTest) :
    compares test l r = false := by
  rw [← exists_order?_iff, ← Option.ne_none_iff_exists', not_not] at h
  rw [compares_eq, h, Option.any_none]

theorem compares_trichotomy (hl : l.IsNumber) (hr : r.IsNumber) :
    Trichotomy (compares .greater l r = true) (compares .less l r = true)
      (compares .greaterOrEqual l r = true) (compares .lessOrEqual l r = true) := by
  obtain ⟨o, ho⟩ := exists_order?_iff.mpr ⟨hl, hr⟩
  simp only [compares_of_order? ho]
  exact OrderTest.trichotomy o

theorem compares_exact_iff {d e : Decimal} (hd : l.reading? = some (.exact d))
    (he : r.reading? = some (.exact e)) (test : OrderTest) :
    compares test l r = true ↔ test.Relates d.value e.value := by
  rw [compares_of_order? (order?_of_exact hd he), test.holds_compare_iff]

theorem compares_exact_trans {m : Value} {d e f : Decimal} (hd : l.reading? = some (.exact d))
    (he : m.reading? = some (.exact e)) (hf : r.reading? = some (.exact f)) {test : OrderTest}
    (hlm : compares test l m = true) (hmr : compares test m r = true) :
    compares test l r = true := by
  rw [compares_exact_iff hd he] at hlm
  rw [compares_exact_iff he hf] at hmr
  rw [compares_exact_iff hd hf]
  exact hlm.trans hmr

end

/-- The tests are coherent on all values: no test holds unless both values are numbers, numbers are
in exactly one of three orders, both directions agree, exact readings go by their rationals, and
equal values are neither less nor greater. -/
theorem compares_coherent (l r : Value) :
    (¬(l.IsNumber ∧ r.IsNumber) → ∀ test, compares test l r = false) ∧
    (l.IsNumber → r.IsNumber →
      Trichotomy (compares .greater l r = true) (compares .less l r = true)
        (compares .greaterOrEqual l r = true) (compares .lessOrEqual l r = true)) ∧
    compares .greater l r = compares .less r l ∧
    compares .greaterOrEqual l r = compares .lessOrEqual r l ∧
    (∀ d e test, l.reading? = some (.exact d) → r.reading? = some (.exact e) →
      (compares test l r = true ↔ test.Relates d.value e.value) ∧
      ∀ m f, m.reading? = some (.exact f) → compares test l m = true → compares test m r = true →
        compares test l r = true) ∧
    (l.equal r = true → l.isNumeric = true →
      compares .greaterOrEqual l r = true ∧ compares .lessOrEqual l r = true) := by
  refine ⟨compares_of_not_number, compares_trichotomy, compares_flip .greater l r,
    compares_flip .greaterOrEqual l r, ?_, ?_⟩
  · intro d e test hd he
    refine ⟨compares_exact_iff hd he test, ?_⟩
    intro m f hf hlm hmr
    exact compares_exact_trans hd hf he hlm hmr
  · intro hequal hnumeric
    simp only [compares_of_order? (order?_of_equal hequal hnumeric)]
    exact ⟨rfl, rfl⟩

/-- A float that is not a number, a text against an infinity, and one half with one place and with
two. -/
theorem compares_coherent_halves :
    (∀ test, compares test (.float .nan) (.text "0.5") = false) ∧
    Trichotomy (compares .greater (.text "0.5") (.float (.infinite true)) = true)
      (compares .less (.text "0.5") (.float (.infinite true)) = true)
      (compares .greaterOrEqual (.text "0.5") (.float (.infinite true)) = true)
      (compares .lessOrEqual (.text "0.5") (.float (.infinite true)) = true) ∧
    ∃ d e : Decimal, d.scale = 1 ∧ e.scale = 2 ∧
      (compares .less (.text "0.5") (.text "0.50") = true ↔ d.value < e.value) ∧
      compares .greaterOrEqual (.decimal d) (.decimal e) = true ∧
      compares .lessOrEqual (.decimal d) (.decimal e) = true := by
  have hone : (Value.text "0.5").reading? = some (.exact ⟨5, 1, by decide, by decide⟩) := by decide
  have htwo : (Value.text "0.50").reading? = some (.exact ⟨50, 2, by decide, by decide⟩) := by decide
  have hhalf : (Value.text "0.5").IsNumber := ⟨_, hone, nofun⟩
  have hinfinite : (Value.float (.infinite true)).IsNumber := ⟨_, rfl, nofun⟩
  refine ⟨(compares_coherent (.float .nan) (.text "0.5")).1 ?_,
    (compares_coherent (.text "0.5") (.float (.infinite true))).2.1 hhalf hinfinite,
    ⟨5, 1, by decide, by decide⟩, ⟨50, 2, by decide, by decide⟩, rfl, rfl,
    ((compares_coherent (.text "0.5") (.text "0.50")).2.2.2.2.1 _ _ .less hone htwo).1,
    (compares_coherent (.decimal _) (.decimal _)).2.2.2.2.2 (by decide) rfl⟩
  rintro ⟨⟨x, hx, hnan⟩, -⟩
  cases hx
  exact hnan rfl

end Value

end Questionnaire
