import Questionnaire.Json.Members
import Questionnaire.Proofs.Condition.Reading
import Questionnaire.Proofs.Condition.Search
import Questionnaire.Proofs.Value.Document
import Questionnaire.Proofs.Value.Equality

namespace Questionnaire

namespace Value

variable (v : Value)

theorem isIn_ofJson_array (items : List Json) :
    v.isIn (ofJson (.array items)) = items.any fun w => v.equal (ofJson w) := by
  rw [ofJson_array, isIn, elements?, Option.any_some, isAmong, List.any_map]
  simp only [Function.comp_def, equal_comm v]

/-- A table keeps the values of an object in the order of their keys, but one of them is enough. -/
theorem isIn_ofJson_object (members : Json.Members) :
    v.isIn (ofJson (.object members)) = v.isIn (ofJson (.array (members.entries.map (·.2)))) := by
  have hperm := (perm_tableOf members).map (·.2)
  rw [ofJson_object, ofJson_array, isIn, isIn, elements?, elements?, Option.any_some,
    Option.any_some, isAmong, isAmong, hperm.any_eq, List.map_map, List.map_map]
  rfl

end Value

namespace Condition

variable {limit depth : Nat} {d : Context}

theorem any_comparisons (cs : List Comparison) :
    any limit d depth (cs.map comparison) = .ok (cs.any (·.holds d)) := by
  induction cs with
  | nil => rfl
  | cons c rest ih =>
    rw [List.map_cons, any, evaluate, ih, List.any_cons]
    cases c.holds d <;> rfl

theorem all_comparisons (cs : List Comparison) :
    all limit d depth (cs.map comparison) = .ok (cs.all (·.holds d)) := by
  induction cs with
  | nil => rfl
  | cons c rest ih =>
    rw [List.map_cons, all, evaluate, ih, List.all_cons]
    cases c.holds d <;> rfl

theorem evaluate_or_comparisons (hdepth : depth ≤ limit) {cs : List Comparison} (hcs : cs ≠ []) :
    (group .or (cs.map comparison)).evaluate limit d depth = .ok (cs.any (·.holds d)) := by
  have hconditions : cs.map comparison ≠ [] := mt List.map_eq_nil_iff.mp hcs
  rw [evaluate_group_of_le hdepth _ hconditions, Operator.settle, ← any_eq_search, any_comparisons]

theorem evaluate_and_comparisons (hdepth : depth ≤ limit) (cs : List Comparison) :
    (group .and (cs.map comparison)).evaluate limit d depth = .ok (cs.all (·.holds d)) := by
  rw [evaluate_group, if_neg (Nat.not_lt_of_le hdepth), Operator.settle, ← all_eq_search,
    all_comparisons]
  cases cs <;> rfl

end Condition

namespace Json

/-- A node that tests a field: the key of the test with its operand. -/
def testNode (field key : String) (operand : Json) : Json :=
  .object [("field", .string field), (key, operand)]

def groupNode (operator : String) (conditions : List Json) : Json :=
  .object [("operator", .string operator), ("conditions", .array conditions)]

end Json

namespace Condition

open Json (testNode groupNode)

/-- What a node comes to when it may have the given levels of groups and lies below `depth` groups;
`none` if it has more levels. -/
def evaluateNode? (levels limit : Nat) (d : Context) (depth : Nat) (node : Json) :
    Option (Except VisibilityError Bool) :=
  (ofNode? levels node).map fun c => c.evaluate limit d depth

variable {levels limit depth : Nat} {d : Context} {field key : String}

theorem evaluateNode?_testNode {operand : Json} {test : FieldTest}
    (hnode : isGroupNode (testNode field key operand) = false)
    (htest : Comparison.ofJson (testNode field key operand) = ⟨some field, some test⟩) :
    evaluateNode? levels limit d depth (testNode field key operand) =
      some (.ok (test.holds (d.resolve field))) := by
  rw [evaluateNode?, ofNode?_of_comparison hnode, htest, Option.map_some, evaluate]
  rfl

theorem ofNode?_groupNode (test : Json → FieldTest)
    (hnode : ∀ w, isGroupNode (testNode field key w) = false)
    (htest : ∀ w, Comparison.ofJson (testNode field key w) = ⟨some field, some (test w)⟩)
    (levels : Nat) (operator : String) (operands : List Json) :
    ofNode? (levels + 1) (groupNode operator (operands.map (testNode field key))) =
      some (.group (.ofToken operator)
        ((operands.map fun w => Comparison.mk (some field) (some (test w))).map comparison)) := by
  have hread : (operands.map (testNode field key)).mapM (ofNode? levels) =
      some ((operands.map fun w => Comparison.mk (some field) (some (test w))).map comparison) := by
    rw [mapM_eq_some_iff, List.map_map, List.forall₂_map_left_iff, List.forall₂_map_right_iff,
      List.forall₂_same]
    intro w _
    rw [ofNode?_of_comparison (hnode w), htest]
    rfl
  rw [ofNode?_of_group rfl, Group.ofJsonWithin?_succ]
  change Option.map _ (Option.map _ ((operands.map (testNode field key)).mapM _)) = _
  rw [hread]
  rfl

theorem evaluateNode?_or_equals (hdepth : depth ≤ limit) {operands : List Json}
    (h : operands ≠ []) :
    evaluateNode? (levels + 1) limit d depth
        (groupNode "OR" (operands.map (testNode field "equals"))) =
      some (.ok ((FieldTest.isIn (.array operands)).holds (d.resolve field))) := by
  have hcs : operands.map (fun w => Comparison.mk (some field) (some (.equals w))) ≠ [] :=
    mt List.map_eq_nil_iff.mp h
  rw [evaluateNode?, ofNode?_groupNode .equals (fun _ => rfl) (fun _ => rfl),
    Option.map_some]
  simp only [Operator.ofToken]
  rw [evaluate_or_comparisons hdepth hcs, List.any_map, FieldTest.holds,
    Value.isIn_ofJson_array]
  rfl

theorem evaluateNode?_and_differs (hdepth : depth ≤ limit) (operands : List Json) :
    evaluateNode? (levels + 1) limit d depth
        (groupNode "AND" (operands.map (testNode field "notEquals"))) =
      some (.ok ((FieldTest.isNotIn (.array operands)).holds (d.resolve field))) := by
  rw [evaluateNode?, ofNode?_groupNode .differs (fun _ => rfl) (fun _ => rfl),
    Option.map_some]
  simp only [Operator.ofToken]
  rw [evaluate_and_comparisons hdepth, List.all_map, FieldTest.holds, Value.isIn_ofJson_array,
    List.not_any_eq_all_not]
  rfl

/-- Where there is room for a group, membership in an array is equality with some operand, unless
there is none, and its denial is difference from all operands. An object stands for the array of the
values of its members. -/
theorem membership_as_equalities (hdepth : depth ≤ limit) (levels : Nat) (d : Context)
    (field : String) (operands : List Json) :
    let result := evaluateNode? (levels + 1) limit d depth
    (operands ≠ [] → ∃ b, result (testNode field "in" (.array operands)) = some (.ok b) ∧
      result (groupNode "OR" (operands.map (testNode field "equals"))) = some (.ok b)) ∧
    result (testNode field "in" (.array [])) = some (.ok false) ∧
    (∃ b, result (testNode field "notIn" (.array operands)) = some (.ok b) ∧
      result (groupNode "AND" (operands.map (testNode field "notEquals"))) = some (.ok b)) ∧
    ∀ members : Json.Members,
      result (testNode field "in" (.object members)) =
        result (testNode field "in" (.array (members.entries.map (·.2)))) ∧
      result (testNode field "notIn" (.object members)) =
        result (testNode field "notIn" (.array (members.entries.map (·.2)))) := by
  intro result
  have hin (w : Json) : result (testNode field "in" w) =
      some (.ok ((FieldTest.isIn w).holds (d.resolve field))) :=
    evaluateNode?_testNode rfl rfl
  have hnotIn (w : Json) : result (testNode field "notIn" w) =
      some (.ok ((FieldTest.isNotIn w).holds (d.resolve field))) :=
    evaluateNode?_testNode rfl rfl
  refine ⟨?_, ?_, ?_, ?_⟩
  · intro hne
    exact ⟨_, hin _, evaluateNode?_or_equals hdepth hne⟩
  · exact hin _
  · exact ⟨_, hnotIn _, evaluateNode?_and_differs hdepth operands⟩
  · intro members
    simp only [hin, hnotIn, FieldTest.holds, Value.isIn_ofJson_object, and_self]

/-- A list with an object in it. -/
def seats : Json :=
  .array [.object [("row", .string "4"), ("seat", .number (.integer 2 (by decide)))]]

/-- A text, and the list again, its members the other way round. -/
def places : List Json :=
  [.string "4", .array [.object [("seat", .number (.integer 2 (by decide))), ("row", .string "4")]]]

/-- The second operand is found where the group has a group around it, and no more. -/
theorem membership_as_equalities_seats :
    let result := evaluateNode? 1 1 (Table.ofList [("seats", .ofJson seats)]) 1
    places ≠ [] ∧
    result (testNode "seats" "in" (.array places)) = some (.ok true) ∧
    result (groupNode "OR" (places.map (testNode "seats" "equals"))) = some (.ok true) ∧
    result (groupNode "AND" (places.map (testNode "seats" "notEquals"))) = some (.ok false) ∧
    result (testNode "seats" "in" (.object (["z", "a"].zip places))) = some (.ok true) := by
  intro result
  have hne : places ≠ [] := List.cons_ne_nil _ _
  have hin : result (testNode "seats" "in" (.array places)) = some (.ok true) := rfl
  have hnotIn : result (testNode "seats" "notIn" (.array places)) = some (.ok false) := rfl
  obtain ⟨hor, -, ⟨c, hc, hand⟩, hobject⟩ := membership_as_equalities (Nat.le_refl 1) 0
    (Table.ofList [("seats", .ofJson seats)]) "seats" places
  obtain ⟨b, hb, hor⟩ := hor hne
  cases hin.symm.trans hb
  cases hnotIn.symm.trans hc
  exact ⟨hne, hin, hor, hand, (hobject ⟨["z", "a"].zip places, by decide⟩).1.trans hin⟩

end Condition

end Questionnaire
