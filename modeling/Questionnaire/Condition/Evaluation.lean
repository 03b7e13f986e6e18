import Questionnaire.Condition.Reader
import Questionnaire.Context

namespace Questionnaire

inductive VisibilityError where
  | unsupportedOperator (token : String)
  /-- Groups nest deeper than the limit. -/
  | tooDeep (limit : Nat)
  deriving DecidableEq

def VisibilityError.message : VisibilityError → String
  | .unsupportedOperator token => "unsupported logical operator: " ++ token
  | .tooDeep limit => "condition groups nest deeper than " ++ toString limit ++ " levels"

/-- Whether the characters occur in a row. -/
def Text.isInfix (needle : List Char) : List Char → Bool
  | [] => needle.isEmpty
  | c :: rest => needle.isPrefixOf (c :: rest) || isInfix needle rest

namespace Value

/-- Null and empty texts, lists and maps are blank. -/
def isBlank : Value → Bool
  | .null => true
  | .text s => s.isEmpty
  | .list items => items.isEmpty
  | .map entries => entries.isEmpty
  | _ => false

/-- The values that a list or a map holds. -/
def elements? : Value → Option (List Value)
  | .list items => some items
  | .map entries => some (entries.map (·.2))
  | _ => none

/-- Membership among the elements of the candidates; what has no elements has no members. -/
def isIn (v candidates : Value) : Bool :=
  (candidates.elements?).any v.isAmong

/-- Membership in a list or map, or a text inside a text. -/
def contains (haystack needle : Value) : Bool :=
  match haystack, needle with
  | .text h, .text n => Text.isInfix n.toList h.toList
  | h, n => n.isIn h

end Value

/-- Whether a value passes the test. -/
def FieldTest.holds (v : Value) : FieldTest → Bool
  | .isNotNull => !v.isBlank
  | .isNull => v.isBlank
  | .hasValue w | .equals w => v.equal (.ofJson w)
  | .differs w => !v.equal (.ofJson w)
  | .isIn w => v.isIn (.ofJson w)
  | .isNotIn w => !v.isIn (.ofJson w)
  | .contains w => v.contains (.ofJson w)
  | .lacks w => !v.contains (.ofJson w)
  | .order test w => Value.compares test v (.ofJson w)

def Comparison.holds (d : Context) (c : Comparison) : Bool :=
  match c.field, c.test with
  | some field, some test => test.holds (d.resolve field)
  | _, _ => false

namespace Condition

mutual

/-- Evaluates a condition whose group, if it is one, lies below `depth` other groups. -/
def evaluate (limit : Nat) (d : Context) (depth : Nat) : Condition → Except VisibilityError Bool
  | .comparison c => .ok (c.holds d)
  | .group operator conditions =>
    if limit < depth then .error (.tooDeep limit)
    else if conditions.isEmpty then .ok true
    else match operator with
      | .and => all limit d (depth + 1) conditions
      | .or => any limit d (depth + 1) conditions
      | .not => (all limit d (depth + 1) conditions).map (!·)
      | .other token => .error (.unsupportedOperator token)

/-- Whether all conditions hold, up to the first that does not. -/
def all (limit : Nat) (d : Context) (depth : Nat) :
    List Condition → Except VisibilityError Bool
  | [] => .ok true
  | c :: rest =>
    match evaluate limit d depth c with
    | .ok true => all limit d depth rest
    | other => other

/-- Whether some condition holds, up to the first that does. -/
def any (limit : Nat) (d : Context) (depth : Nat) :
    List Condition → Except VisibilityError Bool
  | [] => .ok false
  | c :: rest =>
    match evaluate limit d depth c with
    | .ok false => any limit d depth rest
    | other => other

end

end Condition

namespace Group

/-- Levels of nesting that evaluation allows unless told otherwise. -/
def defaultLimit : Nat := 32

def evaluate (limit : Nat) (d : Context) (g : Group) : Except VisibilityError Bool :=
  g.toCondition.evaluate limit d 0

end Group

/-- Evaluates a block of dependencies as a document holds it. A blank block always shows. -/
def displays (dependencies : Json) (d : Context) : Except VisibilityError Bool :=
  if dependencies.isBlank then .ok true
  else match Group.ofJson? dependencies with
    | some g => g.evaluate Group.defaultLimit d
    | none => .error (.tooDeep Group.maxLevels)

end Questionnaire
