import Questionnaire.Condition.Evaluation

namespace Questionnaire

namespace Condition

/-- The first error or deciding truth among results; if there is neither, the other truth. -/
def search (deciding : Bool) :
    List (Except VisibilityError Bool) → Except VisibilityError Bool
  | [] => .ok !deciding
  | .error e :: _ => .error e
  | .ok b :: rest => if b = deciding then .ok b else search deciding rest

theorem search_eq_error {deciding : Bool} {results : List (Except VisibilityError Bool)}
    {e : VisibilityError} (h : search deciding results = .error e) : .error e ∈ results := by
  induction results with
  | nil => cases h
  | cons r rest ih =>
    cases r with
    | error e' =>
      cases h
      exact List.mem_cons_self
    | ok b =>
      simp only [search] at h
      split at h
      · cases h
      · exact List.mem_cons_of_mem _ (ih h)

end Condition

namespace Operator

/-- What a group makes of the results of its conditions. -/
def settle (operator : Operator) (results : List (Except VisibilityError Bool)) :
    Except VisibilityError Bool :=
  match operator with
  | .and => Condition.search false results
  | .or => Condition.search true results
  | .not => (Condition.search false results).map (!·)
  | .other token => .error (.unsupportedOperator token)

theorem settle_eq_error {operator : Operator}
    {results : List (Except VisibilityError Bool)} {e : VisibilityError}
    (h : operator.settle results = .error e) :
    .error e ∈ results ∨ ∃ token, operator = .other token ∧ e = .unsupportedOperator token := by
  cases operator with
  | and => exact .inl (Condition.search_eq_error h)
  | or => exact .inl (Condition.search_eq_error h)
  | not =>
    simp only [settle] at h
    cases hs : Condition.search false results with
    | error e' =>
      rw [hs] at h
      cases h
      exact .inl (Condition.search_eq_error hs)
    | ok b =>
      rw [hs] at h
      cases h
  | other token =>
    cases h
    exact .inr ⟨token, rfl, rfl⟩

end Operator

namespace Condition

variable (limit : Nat) (d : Context) (depth : Nat)

theorem all_eq_search (cs : List Condition) :
    all limit d depth cs = search false (cs.map (evaluate limit d depth)) := by
  induction cs with
  | nil => rfl
  | cons c rest ih =>
    rw [all, List.map_cons, ih]
    cases c.evaluate limit d depth with
    | error e => rfl
    | ok b => cases b <;> rfl

theorem any_eq_search (cs : List Condition) :
    any limit d depth cs = search true (cs.map (evaluate limit d depth)) := by
  induction cs with
  | nil => rfl
  | cons c rest ih =>
    rw [any, List.map_cons, ih]
    cases c.evaluate limit d depth with
    | error e => rfl
    | ok b => cases b <;> rfl

theorem evaluate_group (operator : Operator) (conditions : List Condition) :
    (group operator conditions).evaluate limit d depth =
      if limit < depth then .error (.tooDeep limit)
      else if conditions = [] then .ok true
      else operator.settle (conditions.map (evaluate limit d (depth + 1))) := by
  unfold evaluate
  simp only [List.isEmpty_iff]
  cases operator <;> simp only [Operator.settle, all_eq_search, any_eq_search]

theorem evaluate_group_of_le {limit depth : Nat} {d : Context} {cs : List Condition}
    (hdepth : depth ≤ limit) (operator : Operator) (hcs : cs ≠ []) :
    (group operator cs).evaluate limit d depth =
      operator.settle (cs.map (evaluate limit d (depth + 1))) := by
  rw [evaluate_group, if_neg (Nat.not_lt_of_le hdepth), if_neg hcs]

end Condition

end Questionnaire
