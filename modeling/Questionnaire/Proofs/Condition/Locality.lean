import Questionnaire.Proofs.Condition.Search
import Questionnaire.Proofs.Condition.Structure

namespace Questionnaire

namespace Condition

mutual

/-- The fields of all comparisons in a condition, at any depth. -/
def fields : Condition → List String
  | .comparison c => c.field.toList
  | .group _ conditions => fieldsOf conditions

def fieldsOf : List Condition → List String
  | [] => []
  | c :: rest => fields c ++ fieldsOf rest

end

theorem fieldsOf_eq_flatMap (cs : List Condition) : fieldsOf cs = cs.flatMap fields := by
  induction cs with
  | nil => rfl
  | cons c rest ih => rw [fieldsOf, ih, List.flatMap_cons]

/-- A comparison in the condition, at the end of some path, names the field. -/
def Names (c : Condition) (field : String) : Prop :=
  ∃ path test, c.at? path = some (.comparison ⟨some field, test⟩)

theorem names_comparison_iff {c : Comparison} {field : String} :
    (comparison c).Names field ↔ c.field = some field := by
  constructor
  · rintro ⟨path, test, hat⟩
    obtain ⟨-, hc⟩ := at?_comparison_eq_some_iff.mp hat
    cases hc
    rfl
  · intro hfield
    obtain ⟨_, test⟩ := c
    cases hfield
    exact ⟨[], test, at?_nil _⟩

theorem names_group_iff {operator : Operator} {cs : List Condition} {field : String} :
    (group operator cs).Names field ↔ ∃ c ∈ cs, c.Names field := by
  constructor
  · rintro ⟨path, test, hat⟩
    cases path with
    | nil =>
      rw [at?_nil] at hat
      cases hat
    | cons i path =>
      obtain ⟨c, hi, hat⟩ := at?_cons_eq_some_iff.mp hat
      exact ⟨c, List.mem_of_getElem? hi, path, test, hat⟩
  · rintro ⟨c, hc, path, test, hat⟩
    obtain ⟨i, hi⟩ := List.mem_iff_getElem?.mp hc
    exact ⟨i :: path, test, at?_cons_eq_some_iff.mpr ⟨c, hi, hat⟩⟩

theorem mem_fields_iff {c : Condition} {field : String} : field ∈ c.fields ↔ c.Names field := by
  induction c with
  | comparison c => rw [fields, Option.mem_toList, names_comparison_iff]
  | group operator conditions ih =>
    rw [fields, fieldsOf_eq_flatMap, List.mem_flatMap, names_group_iff]
    constructor
    · rintro ⟨c, hc, hfield⟩
      exact ⟨c, hc, (ih c hc).mp hfield⟩
    · rintro ⟨c, hc, hnames⟩
      exact ⟨c, hc, (ih c hc).mpr hnames⟩

end Condition

theorem Comparison.holds_congr {c : Comparison} {d d' : Context}
    (h : ∀ k, c.field = some k → d.resolve k = d'.resolve k) : c.holds d = c.holds d' := by
  obtain ⟨field, test⟩ := c
  cases field with
  | none => rfl
  | some k =>
    cases test with
    | none => rfl
    | some test => exact congrArg test.holds (h k rfl)

theorem Condition.evaluate_congr {limit : Nat} {d d' : Context} {c : Condition}
    (h : ∀ k ∈ c.fields, d.resolve k = d'.resolve k) (depth : Nat) :
    c.evaluate limit d depth = c.evaluate limit d' depth := by
  induction c generalizing depth with
  | comparison c =>
    have hholds : c.holds d = c.holds d' := by
      apply Comparison.holds_congr
      intro k hk
      apply h
      rw [fields, hk]
      exact List.mem_singleton_self k
    rw [evaluate, evaluate, hholds]
  | group operator conditions ih =>
    have hresults : conditions.map (evaluate limit d (depth + 1)) =
        conditions.map (evaluate limit d' (depth + 1)) := by
      apply List.map_congr_left
      intro c hc
      apply ih c hc
      intro k hk
      apply h
      rw [fields, fieldsOf_eq_flatMap]
      exact List.mem_flatMap.mpr ⟨c, hc, hk⟩
    rw [evaluate_group, evaluate_group, hresults]

namespace Group

/-- The fields of all comparisons in a group, at any depth. -/
def fields (g : Group) : List String :=
  g.toCondition.fields

theorem evaluate_congr {limit : Nat} {d d' : Context} {g : Group}
    (h : ∀ k ∈ g.fields, d.resolve k = d'.resolve k) :
    g.evaluate limit d = g.evaluate limit d' :=
  Condition.evaluate_congr h 0

/-- Evaluation reads only the fields that comparisons name, at any depth. Data that give these the
same values, a missing one being null, give the same truth or the same error under every limit. -/
theorem evaluate_of_named_fields (limit : Nat) (g : Group) {d d' : Context}
    (h : ∀ field, g.toCondition.Names field → d.resolve field = d'.resolve field) :
    g.evaluate limit d = g.evaluate limit d' := by
  apply evaluate_congr
  intro field hfield
  exact h field (Condition.mem_fields_iff.mp hfield)

/-- A text is searched for, and after it a nested group decides, which asks for `b` and then has an
operator that is not known. -/
def searchedText : Group :=
  ⟨.or, [.comparison ⟨some "a", some (.contains (.string "x"))⟩,
    .group .not [.comparison ⟨some "b", some .isNull⟩,
      .group (.other "XOR") [.comparison ⟨some "a", none⟩]]]⟩

/-- There is no `b`, and a field that is not named. -/
def dataWithoutB : Context := Table.ofList [("a", .text "ab"), ("c", .bool true)]

def dataWithNullB : Context := Table.ofList [("a", .text "ab"), ("b", .null)]

theorem evaluate_of_named_fields_searchedText :
    (∀ field, searchedText.toCondition.Names field →
      dataWithoutB.resolve field = dataWithNullB.resolve field) ∧
    searchedText.evaluate 2 dataWithoutB = .error (.unsupportedOperator "XOR") ∧
    searchedText.evaluate 2 dataWithNullB = .error (.unsupportedOperator "XOR") := by
  have h : ∀ field, searchedText.toCondition.Names field →
      dataWithoutB.resolve field = dataWithNullB.resolve field := by
    intro field hnames
    have hfield : field ∈ ["a", "b", "a"] := Condition.mem_fields_iff.mpr hnames
    simp only [List.mem_cons, List.not_mem_nil, or_false] at hfield
    rcases hfield with rfl | rfl | rfl <;> rfl
  have hwithout : searchedText.evaluate 2 dataWithoutB = .error (.unsupportedOperator "XOR") := rfl
  exact ⟨h, hwithout, (evaluate_of_named_fields 2 searchedText h).symm.trans hwithout⟩

end Group

end Questionnaire
