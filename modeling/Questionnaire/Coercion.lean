import Questionnaire.Kind
import Questionnaire.Value

namespace Questionnaire

inductive CoercionError where
  /-- The text is in none of the formats of the kind. -/
  | unparseable (kind : Kind) (input : String)
  /-- The value is neither text nor temporal. -/
  | notTemporal (kind : Kind) (got : String)
  deriving DecidableEq

def CoercionError.message : CoercionError → String
  | .unparseable kind input => "cannot parse '" ++ input ++ "' as " ++ kind.token
  | .notTemporal kind got => "cannot use a " ++ got ++ " value as " ++ kind.token

/-- Numbers, also in texts, are cut to integers; what does not fit stays as it is. -/
def coerceInteger (raw : Value) : Value :=
  match raw.reading?.bind (·.toInt64?) with
  | some n => .int n
  | none => raw

/-- The value of a temporal kind that a text denotes. -/
def temporalOfText? (kind : Kind) (s : String) : Option Value :=
  match kind with
  | .date => (Calendar.Date.ofText? s).map .date
  | .time => (Calendar.TimeOfDay.ofText? s).map .time
  | _ => (Calendar.Moment.ofText? s).map .moment

/-- Temporal values of any sort are kept, texts are read, and blank texts leave the default
unset. -/
def coerceTemporal (kind : Kind) (raw : Value) : Except CoercionError (Option Value) :=
  if raw.isTemporal then .ok (some raw)
  else match raw with
    | .text s =>
      let trimmed := Text.trim s
      if trimmed.isEmpty then .ok none
      else match temporalOfText? kind trimmed with
        | some v => .ok (some v)
        | none => .error (.unparseable kind s)
    | _ => .error (.notTemporal kind raw.typeName)

/-- The default value that a field of a kind takes from a raw value; none leaves it unset. -/
def coerce (kind : Kind) (raw : Value) : Except CoercionError (Option Value) :=
  if raw.isNull then .ok none
  else match kind with
    | .integer => .ok (some (coerceInteger raw))
    | .file =>
      match raw with
      | .file _ => .ok (some raw)
      | _ => .ok none
    | .date | .datetime | .time => coerceTemporal kind raw
    | _ => .ok (some raw)

end Questionnaire
