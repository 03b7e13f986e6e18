import Questionnaire.Form.Build

namespace Questionnaire

/-- What a report says of one question. -/
structure Decision where
  sectionSlug : String
  categorySlug : String
  key : String
  visible : Bool
  rule : Question.RuleState
  deriving DecidableEq

namespace Question.RuleState

def name : RuleState → String
  | .none => "none"
  | .rule => "rule"
  | .malformed => "malformed"

end Question.RuleState

def Decision.toJson (d : Decision) : Json :=
  .object [("section", .string d.sectionSlug), ("category", .string d.categorySlug),
    ("key", .string d.key), ("visible", .bool d.visible), ("rule", .string d.rule.name)]

/-- The decisions on questions in a row, and the data after them. -/
def Question.decisionsOf (config : Config) (sectionSlug categorySlug : String) (d : Context) :
    List Question → Except BuildError (List Decision × Context)
  | [] => .ok ([], d)
  | q :: rest => do
    let d := d.seed q
    let visible ← q.isShown config d
    let (others, d) ← decisionsOf config sectionSlug categorySlug d rest
    return (⟨sectionSlug, categorySlug, q.key, visible, q.ruleState⟩ :: others, d)

/-- The decisions on the questions of categories in a row, and the data after them. -/
def Category.decisionsOf (config : Config) (sectionSlug : String) (d : Context) :
    List Category → Except BuildError (List Decision × Context)
  | [] => .ok ([], d)
  | c :: rest => do
    let (decisions, d) ← Question.decisionsOf config sectionSlug c.slug d c.questions
    let (others, d) ← decisionsOf config sectionSlug d rest
    return (decisions ++ others, d)

/-- The decisions on the questions of sections in a row, and the data after them. -/
def Section.decisionsOf (config : Config) (d : Context) :
    List Section → Except BuildError (List Decision × Context)
  | [] => .ok ([], d)
  | s :: rest => do
    let (decisions, d) ← Category.decisionsOf config s.slug d s.categories
    let (others, d) ← decisionsOf config d rest
    return (decisions ++ others, d)

/-- One decision for each question, in the order of the document. -/
def FormSchema.decisions (config : Config) (s : FormSchema) (d : Context) :
    Except BuildError (List Decision) := do
  let (decisions, _) ← Section.decisionsOf config d s.sections
  return decisions

/-- The report on two documents. -/
def reportVisibility (config : Config) (schema data : Json) :
    Except BuildError (List Decision) := do
  let (s, d) ← readForm schema data
  s.decisions config d

end Questionnaire
