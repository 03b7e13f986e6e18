import Questionnaire.Coercion

namespace Questionnaire

/-- What a build reports of its decisions. -/
inductive Event where
  /-- The value of a question does not suit its kind, so the question is left out. -/
  | skipped (field : String) (error : CoercionError)
  | malformedRule (field : String)
  | included (field : String) (kind : Kind)
  | hidden (field : String)
  /-- A section has a submit button of its own. -/
  | sectionSubmit (slug : String)
  /-- No section has one, so the form does. -/
  | rootSubmit (form : String)
  | configurationLoaded (path : String)
  deriving DecidableEq

namespace Event

/-- Warnings are about faults in documents and data; all other events only inform. -/
def isWarning : Event → Bool
  | .skipped .. | .malformedRule _ => true
  | _ => false

def message : Event → String
  | .skipped .. => "skipping field with unusable default"
  | .malformedRule _ =>
    "displayDependencies lacks 'operator' or 'conditions', field always included"
  | .included .. => "field included"
  | .hidden _ => "field hidden by displayDependencies"
  | .sectionSubmit _ => "adding section submit"
  | .rootSubmit _ => "no section declares a submit, adding default at root"
  | .configurationLoaded _ => "loaded configuration"

/-- What the event is about, as names with values. -/
def details : Event → List (String × String)
  | .skipped field error => [("field", field), ("error", error.message)]
  | .malformedRule field | .hidden field => [("field", field)]
  | .included field kind => [("field", field), ("kind", kind.token)]
  | .sectionSubmit slug => [("section", slug)]
  | .rootSubmit form => [("form", form)]
  | .configurationLoaded path => [("path", path)]

/-- The line of a log. -/
def line (e : Event) : String :=
  " ".intercalate
    ((if e.isWarning then "WARN" else "DEBUG") :: e.message ::
      e.details.map fun (name, value) => name ++ "=" ++ value)

end Event

end Questionnaire
