import Questionnaire.Json.Basic
import Questionnaire.Number.Reading

namespace Questionnaire

/-- How a group combines its conditions. Other tokens are kept, and refused when evaluated. -/
inductive Operator where
  | and
  | or
  | not
  | other (token : String)
  deriving DecidableEq, Inhabited

namespace Operator

def ofToken : String → Operator
  | "AND" => .and
  | "OR" => .or
  | "NOT" => .not
  | token => .other token

def token : Operator → String
  | .and => "AND"
  | .or => "OR"
  | .not => "NOT"
  | .other token => token

def isKnown : Operator → Bool
  | .other _ => false
  | _ => true

theorem token_ofToken (t : String) : (ofToken t).token = t := by
  unfold ofToken
  split <;> rfl

end Operator

/-- What a comparison asks of the value of its field. -/
inductive FieldTest where
  | isNotNull
  | isNull
  | hasValue (operand : Json)
  | equals (operand : Json)
  | differs (operand : Json)
  | isIn (operand : Json)
  | isNotIn (operand : Json)
  | contains (operand : Json)
  | lacks (operand : Json)
  | order (test : Number.OrderTest) (operand : Json)
  deriving Inhabited

namespace FieldTest

/-- The member of a document that selects an ordering test. -/
def orderKey : Number.OrderTest → String
  | .greater => "greaterThan"
  | .less => "lessThan"
  | .greaterOrEqual => "greaterThanOrEqual"
  | .lessOrEqual => "lessThanOrEqual"

/-- The member of a document that selects the test. -/
def key : FieldTest → String
  | .isNotNull => "isNotNull"
  | .isNull => "isNull"
  | .hasValue _ => "hasValue"
  | .equals _ => "equals"
  | .differs _ => "notEquals"
  | .isIn _ => "in"
  | .isNotIn _ => "notIn"
  | .contains _ => "contains"
  | .lacks _ => "notContains"
  | .order test _ => orderKey test

/-- The operand; the two tests for null have none. -/
def operand? : FieldTest → Option Json
  | .isNotNull | .isNull => none
  | .hasValue v | .equals v | .differs v | .isIn v | .isNotIn v | .contains v | .lacks v
  | .order _ v => some v

end FieldTest

/-- A test of one field. Without a field or a test it never holds. -/
structure Comparison where
  field : Option String
  test : Option FieldTest
  deriving Inhabited

inductive Condition where
  | comparison (c : Comparison)
  | group (operator : Operator) (conditions : List Condition)
  deriving Inhabited

/-- A group of conditions, as a rule is. -/
structure Group where
  operator : Operator
  conditions : List Condition
  deriving Inhabited

def Group.toCondition (g : Group) : Condition :=
  .group g.operator g.conditions

end Questionnaire
