import Questionnaire.Proofs.Condition.Search
import Questionnaire.Proofs.Condition.Structure

namespace Questionnaire

/-- What an error becomes when the limit is one larger. -/
def VisibilityError.deeper : VisibilityError → VisibilityError
  | .unsupportedOperator token => .unsupportedOperator token
  | .tooDeep limit => .tooDeep (limit + 1)

namespace Condition

section Results

variable (deciding : Bool) (results : List (Except VisibilityError Bool))

theorem search_mapError (f : VisibilityError → VisibilityError) :
    search deciding (results.map (·.mapError f)) = (search deciding results).mapError f := by
  induction results with
  | nil => rfl
  | cons r rest ih =>
    cases r with
    | error e => rfl
    | ok b =>
      rw [List.map_cons, search, apply_ite (Except.mapError f), ← ih]
      rfl

theorem search_map_not :
    search (!deciding) (results.map (·.map (!·))) = (search deciding results).map (!·) := by
  induction results with
  | nil => rfl
  | cons r rest ih =>
    cases r with
    | error e => rfl
    | ok b =>
      rw [List.map_cons, search, apply_ite (Except.map (!·)), ← ih]
      simp only [Except.map, search, Bool.not_inj_iff]

theorem search_singleton (r : Except VisibilityError Bool) : search deciding [r] = r := by
  cases r with
  | error e => rfl
  | ok b => cases b <;> cases deciding <;> rfl

end Results

variable {limit depth : Nat} {d : Context} {cs : List Condition}

/-- A condition comes to the same one level further down, if the limit is one larger too. -/
theorem evaluate_deeper (limit : Nat) (d : Context) (c : Condition) (depth : Nat) :
    c.evaluate (limit + 1) d (depth + 1) = (c.evaluate limit d depth).mapError .deeper := by
  induction c generalizing depth with
  | comparison c =>
    rw [evaluate, evaluate]
    rfl
  | group operator conditions ih =>
    have hresults : conditions.map (evaluate (limit + 1) d (depth + 1 + 1)) =
        (conditions.map (evaluate limit d (depth + 1))).map (·.mapError .deeper) := by
      rw [List.map_map]
      apply List.map_congr_left
      intro c hc
      exact ih c hc (depth + 1)
    have hsettle : ∀ results, operator.settle (results.map (·.mapError .deeper)) =
        (operator.settle results).mapError .deeper := by
      intro results
      cases operator with
      | and => exact search_mapError false results _
      | or => exact search_mapError true results _
      | not =>
        rw [Operator.settle, search_mapError, Operator.settle]
        cases search false results <;> rfl
      | other token => rfl
    rw [evaluate_group, evaluate_group, hresults, hsettle, apply_ite (Except.mapError _),
      apply_ite (Except.mapError _)]
    simp only [Nat.add_lt_add_iff_right]
    rfl

/-- A group that holds if the condition does not. -/
def denied (c : Condition) : Condition :=
  .group .not [c]

theorem evaluate_denied (hdepth : depth ≤ limit) (c : Condition) :
    c.denied.evaluate limit d depth = (c.evaluate limit d (depth + 1)).map (!·) := by
  rw [denied, evaluate_group_of_le hdepth _ (List.cons_ne_nil c []), Operator.settle,
    List.map_singleton, search_singleton]

/-- Some denial holds if the conjunction, a level further down, is denied. -/
theorem evaluate_or_denied (hdepth : depth < limit) (hcs : cs ≠ []) :
    (group .or (cs.map denied)).evaluate limit d depth =
      (group .not cs).evaluate limit d (depth + 1) := by
  have hdenied : cs.map denied ≠ [] := mt List.map_eq_nil_iff.mp hcs
  have hresults : (cs.map denied).map (evaluate limit d (depth + 1)) =
      (cs.map (evaluate limit d (depth + 1 + 1))).map (·.map (!·)) := by
    rw [List.map_map, List.map_map]
    apply List.map_congr_left
    intro c _
    exact evaluate_denied hdepth c
  rw [evaluate_group_of_le (Nat.le_of_lt hdepth) _ hdenied, evaluate_group_of_le hdepth _ hcs,
    hresults]
  exact search_map_not false _

theorem evaluate_denied_not (hdepth : depth < limit) (hcs : cs ≠ []) :
    (group .not cs).denied.evaluate limit d depth =
      (group .and cs).evaluate limit d (depth + 1) := by
  rw [evaluate_denied (Nat.le_of_lt hdepth), evaluate_group_of_le hdepth _ hcs,
    evaluate_group_of_le hdepth _ hcs, Operator.settle, Operator.settle]
  cases search false (cs.map (evaluate limit d (depth + 1 + 1))) with
  | error e => rfl
  | ok b => exact congrArg Except.ok (Bool.not_not b)

end Condition

namespace Group

/-- A conjunction is denied if some of its conditions is, and holds if its denial is denied. The
denials take a level more, and a limit that allows for it gives the same truth or the same error for
an operator, or else both limits are exceeded. A group without conditions holds whatever its operator
is, so it has no denial. -/
theorem evaluate_deMorgan {cs : List Condition} (hcs : cs ≠ []) (limit : Nat) (d : Context) :
    (Group.mk .or (cs.map Condition.denied)).evaluate (limit + 1) d =
      ((Group.mk .not cs).evaluate limit d).mapError .deeper ∧
    (Group.mk .not [.group .not cs]).evaluate (limit + 1) d =
      ((Group.mk .and cs).evaluate limit d).mapError .deeper := by
  have hroot : 0 < limit + 1 := Nat.succ_pos limit
  constructor
  · calc (Group.mk .or (cs.map Condition.denied)).evaluate (limit + 1) d
        = (Condition.group .not cs).evaluate (limit + 1) d 1 :=
          Condition.evaluate_or_denied hroot hcs
      _ = ((Group.mk .not cs).evaluate limit d).mapError .deeper :=
          Condition.evaluate_deeper limit d _ 0
  · calc (Group.mk .not [.group .not cs]).evaluate (limit + 1) d
        = (Condition.group .and cs).evaluate (limit + 1) d 1 :=
          Condition.evaluate_denied_not hroot hcs
      _ = ((Group.mk .and cs).evaluate limit d).mapError .deeper :=
          Condition.evaluate_deeper limit d _ 0

/-- A test of a field, and after it a group in a group, whose operator is not known. -/
def checkedConditions : List Condition :=
  [.comparison ⟨some "a", some .isNotNull⟩,
    .group .and [.group (.other "XOR") [.comparison ⟨some "a", some .isNull⟩]]]

/-- The three outcomes: the field decides, the operator is reached, and the group lies too deep. -/
theorem evaluate_deMorgan_checkedConditions :
    let d : Context := Table.ofList [("a", .bool false)]
    checkedConditions ≠ [] ∧
    ((Group.mk .not checkedConditions).evaluate 1 .empty = .ok true ∧
      (Group.mk .or (checkedConditions.map Condition.denied)).evaluate 2 .empty = .ok true) ∧
    ((Group.mk .and checkedConditions).evaluate 2 d = .error (.unsupportedOperator "XOR") ∧
      (Group.mk .not [.group .not checkedConditions]).evaluate 3 d =
        .error (.unsupportedOperator "XOR")) ∧
    ((Group.mk .not checkedConditions).evaluate 1 d = .error (.tooDeep 1) ∧
      (Group.mk .or (checkedConditions.map Condition.denied)).evaluate 2 d =
        .error (.tooDeep 2)) := by
  intro d
  have hcs : checkedConditions ≠ [] := List.cons_ne_nil _ _
  refine ⟨hcs, ⟨rfl, ?_⟩, ⟨rfl, ?_⟩, ⟨rfl, ?_⟩⟩
  · exact (evaluate_deMorgan hcs 1 .empty).1
  · exact (evaluate_deMorgan hcs 2 d).2
  · exact (evaluate_deMorgan hcs 1 d).1

end Group

end Questionnaire
