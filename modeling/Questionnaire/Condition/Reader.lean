import Questionnaire.Condition.Basic
import Questionnaire.Json.Printer

namespace Questionnaire

/-- Levels of groups that a document may have. -/
def Group.maxLevels : Nat := 128

/-- A missing operator is `AND`; one that is no text is kept as its JSON text. -/
def Operator.ofJson : Option Json → Operator
  | none | some .null => .and
  | some (.string token) => .ofToken token
  | some v => .other v.compact

namespace FieldTest

/-- The tests by priority, each with the member that selects it and its reading of that member. The
operand of `notContains` is the member `contains`. -/
def readers (node : Json) : List (String × (Json → FieldTest)) :=
  [("isNotNull", fun _ => .isNotNull), ("isNull", fun _ => .isNull), ("hasValue", .hasValue),
   ("equals", .equals), ("notEquals", .differs), ("in", .isIn), ("notIn", .isNotIn),
   ("contains", .contains), ("notContains", fun _ => .lacks ((node.get? "contains").getD .null)),
   ("greaterThan", .order .greater), ("lessThan", .order .less),
   ("greaterThanOrEqual", .order .greaterOrEqual), ("lessThanOrEqual", .order .lessOrEqual)]

/-- The first test whose member the node has. -/
def ofJson? (node : Json) : Option FieldTest :=
  (readers node).findSome? fun (key, read) => (node.get? key).map read

end FieldTest

def Comparison.ofJson (node : Json) : Comparison where
  field := node.getString? "field"
  test := FieldTest.ofJson? node

/-- Whether a node is a group: it has both members of one, whatever they are. -/
def Condition.isGroupNode (node : Json) : Bool :=
  node.hasMember "operator" && node.hasMember "conditions"

namespace Group

/-- Reads a group with at most `levels` levels of groups, itself included. -/
def ofJsonWithin? : (levels : Nat) → Json → Option Group
  | 0, _ => none
  | levels + 1, v => do
    let conditions ← (v.getItems "conditions").mapM fun node =>
      if Condition.isGroupNode node then (ofJsonWithin? levels node).map toCondition
      else some (.comparison (.ofJson node))
    return ⟨.ofJson (v.get? "operator"), conditions⟩

/-- The group of a document; `none` if its groups nest too deep. -/
def ofJson? (v : Json) : Option Group :=
  ofJsonWithin? maxLevels v

end Group

end Questionnaire
