import Questionnaire.Value

namespace Questionnaire

/-- The data of a form: a flat map from question keys to values. -/
abbrev Context := Table Value

/-- Data given as JSON was no object. -/
structure DataError where
  got : String
  deriving DecidableEq

def DataError.message (e : DataError) : String :=
  "form data must be a JSON object, got " ++ e.got

namespace Context

/-- The context of a JSON object; null is the empty context. -/
def ofJson? : Json → Except DataError Context
  | .null => .ok .empty
  | .object members => .ok (Table.ofList (members.map fun m => (m.1, Value.ofJson m.2)))
  | other => .error ⟨other.typeName⟩

def toJson (d : Context) : Json :=
  .object (d.entries.map fun e => (e.1, e.2.toJson))

/-- The value of a key, a missing one read as null. -/
def resolve (d : Context) (key : String) : Value :=
  (d.get? key).getD .null

end Context

end Questionnaire
