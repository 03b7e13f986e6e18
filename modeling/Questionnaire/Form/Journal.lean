import Questionnaire.Form.Event
import Questionnaire.Constraint
import Questionnaire.Condition.Evaluation
import Questionnaire.Schema.Reader

namespace Questionnaire

/-- Why a build fails. There is never a part of a tree. -/
inductive BuildError where
  | schema (error : SchemaError)
  | constraint (field : String) (error : ConstraintError)
  | visibility (field : String) (error : VisibilityError)
  | coercion (field : String) (error : CoercionError)
  | invalidData (error : DataError)
  /-- No document has been stored. -/
  | noStructure
  deriving DecidableEq

namespace BuildError

/-- The field that the error is about. -/
def field? : BuildError → Option String
  | .constraint field _ | .visibility field _ | .coercion field _ => some field
  | _ => none

/-- The message of what went wrong, without the field. -/
def cause : BuildError → String
  | .schema e => e.message
  | .constraint _ e => e.message
  | .visibility _ e => e.message
  | .coercion _ e => e.message
  | .invalidData e => e.message
  | .noStructure => "no form structure has been stored"

def message (e : BuildError) : String :=
  match e.field? with
  | some field => "field '" ++ field ++ "': " ++ e.cause
  | none => e.cause

end BuildError

/-- A computation that reports events and may fail. What was reported before a failure stays
reported. -/
structure Journal (α : Type) where
  events : List Event
  result : Except BuildError α

namespace Journal

variable {α β : Type}

/-- Reports an event. -/
def report (e : Event) : Journal Unit := ⟨[e], .ok ()⟩

def ofExcept (r : Except BuildError α) : Journal α := ⟨[], r⟩

def bind (j : Journal α) (f : α → Journal β) : Journal β :=
  match j.result with
  | .ok a => ⟨j.events ++ (f a).events, (f a).result⟩
  | .error e => ⟨j.events, .error e⟩

instance : Monad Journal where
  pure a := ⟨[], .ok a⟩
  bind := bind

instance : MonadLift (Except BuildError) Journal := ⟨ofExcept⟩

theorem events_pure (a : α) : (pure a : Journal α).events = [] := rfl

theorem result_bind (j : Journal α) (f : α → Journal β) :
    (j >>= f).result = j.result >>= fun a => (f a).result := by
  obtain ⟨events, result⟩ := j
  cases result <;> rfl

end Journal

end Questionnaire
