import Questionnaire.Form.Config
import Questionnaire.Form.Journal
import Questionnaire.Form.Tree
import Questionnaire.Text.Capital

namespace Questionnaire

/-- The default of a question, null if it has none. -/
def Question.defaultValue (q : Question) : Value :=
  (q.data.map Value.ofJson).getD .null

namespace Context

/-- Fills the gap, if there is one, that the data has for a question: no value, or null. -/
def seed (d : Context) (q : Question) : Context :=
  if (d.resolve q.key).isNull then d.insert q.key q.defaultValue else d

end Context

namespace Question

def kind (q : Question) : Kind :=
  .ofToken q.type

/-- The descriptors of the question's constraints. -/
def descriptors (registry : Registry) (q : Question) : Except BuildError (List Descriptor) :=
  (registry.describeAll (q.constraints.getD [])).mapError (.constraint q.key)

/-- What a question with a value comes to. -/
inductive Definition where
  | skipped (error : CoercionError)
  | field (definition : FieldDefinition)

def Definition.field? : Definition → Option FieldDefinition
  | .skipped _ => none
  | .field f => some f

end Question

/-- The value that an entry of a collection has for a key: null if it has none or is no map. -/
def Value.entry (row : Value) (key : String) : Value :=
  match row with
  | .map entries => (entries.lookup key).getD .null
  | _ => .null

mutual

/-- Coerces the value of a question, then makes its field. A value that does not suit the kind is a
matter of policy, and comes before all other checks. A collection has the fields of an entry without
values. -/
def Question.makeField (config : Config) (raw : Value) : Question → Journal Question.Definition
  | ⟨key, type, label, required, data, constraints, dependencies, fields, options⟩ => do
    let q : Question := ⟨key, type, label, required, data, constraints, dependencies, fields,
      options⟩
    match coerce q.kind raw, config.onCoercionError with
    | .error e, .skip =>
      Journal.report (.skipped key e)
      return .skipped e
    | .error e, .abort => Journal.ofExcept (.error (.coercion key e))
    | .ok default, _ =>
      let descriptors ← q.descriptors config.registry
      let entryFields ← if q.kind = .collection then entryFields config .null fields else pure []
      return .field {
        name := key
        kind := q.kind
        label := label.getD (Text.capitalize key)
        required := required.getD false
        default := default
        constraints := descriptors
        options := options
        entryFields := entryFields }

/-- The fields of an entry of a collection. Each takes its value from the entry. -/
def entryFields (config : Config) (row : Value) : List Question → Journal (List FieldDefinition)
  | [] => pure []
  | q :: rest => do
    let definition ← q.makeField config (row.entry q.key)
    let others ← entryFields config row rest
    return definition.field?.toList ++ others

end

namespace Question

/-- What a question with a value comes to, apart from what is reported of it. -/
def define (config : Config) (q : Question) (raw : Value) : Except BuildError Definition :=
  (q.makeField config raw).result

/-- How the visibility of a question is decided. -/
inductive RuleState where
  | none
  | rule
  | malformed
  deriving DecidableEq, Repr

def ruleState (q : Question) : RuleState :=
  match q.dependencies with
  | .none => .none
  | some (.rule _) => .rule
  | some (.malformed _) => .malformed

/-- Whether a question is shown; without a rule to evaluate it is. -/
def isShown (config : Config) (d : Context) (q : Question) : Except BuildError Bool :=
  match q.dependencies with
  | some (.rule g) => (g.evaluate config.maxConditionDepth d).mapError (.visibility q.key)
  | _ => .ok true

/-- Whether a question is shown in a build, which warns about a rule that is malformed. -/
def visible (config : Config) (d : Context) (q : Question) : Journal Bool :=
  match q.dependencies with
  | some (.malformed _) => do
    Journal.report (.malformedRule q.key)
    return true
  | _ => q.isShown config d

/-- What becomes of a question in a build. -/
inductive Assessment where
  | skipped (error : CoercionError)
  | hidden
  | included (definition : FieldDefinition)

def Assessment.field? : Assessment → Option FieldDefinition
  | .included f => some f
  | _ => none

/-- Assesses a question against data that is seeded up to it. A hidden question must pass the
checks of a field like any other. -/
def assess (config : Config) (d : Context) (q : Question) : Journal Assessment := do
  match ← q.makeField config (d.resolve q.key) with
  | .skipped e => return .skipped e
  | .field f =>
    if ← q.visible config d then
      Journal.report (.included q.key f.kind)
      return .included f
    else
      Journal.report (.hidden q.key)
      return .hidden

end Question

/-- The fields of questions in a row, and the data after them. -/
def Question.fieldsOf (config : Config) (d : Context) :
    List Question → Journal (List FieldDefinition × Context)
  | [] => return ([], d)
  | q :: rest => do
    let d := d.seed q
    let assessment ← q.assess config d
    let (others, d) ← fieldsOf config d rest
    return (assessment.field?.toList ++ others, d)

/-- The header of a group; without a title its name is shown. -/
def GroupDisplay.header (display : GroupDisplay) (slug : String) (title : Option String) :
    GroupHeader where
  name := slug
  label := title.getD (Text.capitalize slug)
  attr := display.attr
  labelAttr := display.labelAttr

/-- The groups of categories in a row, and the data after them. -/
def Category.groupsOf (config : Config) (display : GroupDisplay) (d : Context) :
    List Category → Journal (List FormNode × Context)
  | [] => return ([], d)
  | c :: rest => do
    let (fields, d) ← Question.fieldsOf config d c.questions
    let (others, d) ← groupsOf config display d rest
    return (.group (display.header c.slug c.title) (fields.map .field) :: others, d)

/-- The usual submit button. -/
def Config.submit (config : Config) : Action where
  name := config.submitName
  label := config.submitLabel
  attr := .ofList [("class", .string config.submitClass)]

/-- The submit button of a section: its own settings over the usual ones. -/
def SubmitSpec.action (config : Config) (spec : SubmitSpec) : Action where
  name := config.submitName
  label := spec.label.getD config.submitLabel
  attr := (Json.Members.ofList
    [("class", .string (spec.class?.getD config.submitClass))]).setAll spec.attr

/-- The submit button at the end of a section. -/
def Section.actions (config : Config) (s : Section) : Journal (List FormNode) :=
  match s.submit with
  | some spec => do
    Journal.report (.sectionSubmit s.slug)
    return [.action (spec.action config)]
  | none => pure []

/-- The groups of sections in a row, and the data after them. -/
def Section.groupsOf (config : Config) (schema : FormSchema) (d : Context) :
    List Section → Journal (List FormNode × Context)
  | [] => return ([], d)
  | s :: rest => do
    let (categories, d) ← Category.groupsOf config schema.categoryDisplay d s.categories
    let actions ← s.actions config
    let (others, d) ← groupsOf config schema d rest
    let header := schema.sectionDisplay.header s.slug s.title
    return (.group header (categories ++ actions) :: others, d)

namespace FormSchema

/-- The submit button of the form, if no section has one. -/
def actions (config : Config) (s : FormSchema) : Journal (List FormNode) :=
  if s.sections.any (·.submit.isSome) then pure []
  else do
    Journal.report (.rootSubmit s.slug)
    return [.action config.submit]

/-- Builds the form of a schema and data. -/
def build (config : Config) (s : FormSchema) (d : Context) : Journal FormTree := do
  let (groups, d) ← Section.groupsOf config s d s.sections
  let actions ← s.actions config
  return ⟨s.slug, groups ++ actions, d⟩

end FormSchema

/-- Reads a schema, then data. -/
def readForm (schema data : Json) : Except BuildError (FormSchema × Context) := do
  let s ← (FormSchema.ofJson schema).mapError .schema
  let d ← (Context.ofJson? data).mapError .invalidData
  return (s, d)

/-- Builds the form of two documents. -/
def buildForm (config : Config) (schema data : Json) : Journal FormTree := do
  let (s, d) ← readForm schema data
  s.build config d

end Questionnaire
