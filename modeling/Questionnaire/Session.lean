import Questionnaire.Form.Build

namespace Questionnaire

/-- The active document and the data entered so far. A document is checked before it becomes the
active one. -/
structure Store where
  /-- The active document. -/
  document : Option Json
  /-- The data entered so far. -/
  draft : Context
  deriving Inhabited

namespace Store

def empty : Store := ⟨none, .empty⟩

def setDocument (document : Json) (s : Store) : Store :=
  { s with document := some document }

/-- Puts new data over the draft. -/
def save (d : Context) (s : Store) : Store :=
  { s with draft := s.draft.overlay d }

/-- The store in which a document is the active one and nothing has been entered. -/
def start (document : Json) : Except SchemaError Store := do
  let _ ← FormSchema.ofJson document
  return empty.setDocument document

/-- Builds the active document with the draft. -/
def build (config : Config) (s : Store) : Journal FormTree :=
  match s.document with
  | none => Journal.ofExcept (.error .noStructure)
  | some document => do
    let schema ← Journal.ofExcept ((FormSchema.ofJson document).mapError .schema)
    schema.build config s.draft

end Store

/-- What can be done in a session. -/
inductive Step where
  | start (document : Json)
  | save (d : Context)
  | build
  | reset

namespace Step

/-- The store after a step. A document that is refused changes nothing. -/
def apply (s : Store) : Step → Store
  | .start document =>
    match Store.start document with
    | .ok s => s
    | .error _ => s
  | .save d => s.save d
  | .build => s
  | .reset => .empty

/-- The store after steps in a row. -/
def applyAll (s : Store) (steps : List Step) : Store :=
  steps.foldl apply s

end Step

end Questionnaire
