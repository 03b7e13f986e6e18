import Questionnaire.Condition.Basic
import Questionnaire.Json.Members

namespace Questionnaire

/-- The rule that says when a question is shown. -/
inductive Dependencies where
  | rule (group : Group)
  /-- A block without an operator or conditions. It decides nothing and is kept as it is. -/
  | malformed (block : Json)

structure Question where
  /-- The key of the answer in the data. -/
  key : String
  /-- The token of the kind of field. -/
  type : String
  label : Option String
  required : Option Bool
  /-- The default: it fills a gap in the data. -/
  data : Option Json
  /-- Constraint names with their options, in the order of the document. -/
  constraints : Option (List (String × Json))
  dependencies : Option Dependencies
  /-- The questions of one entry, if the question is a collection. -/
  fields : List Question
  /-- All other members of the question. -/
  options : List (String × Json)

structure Category where
  slug : String
  title : Option String
  questions : List Question

/-- A submit button at the end of a section. -/
structure SubmitSpec where
  label : Option String
  /-- Stands in for the usual class. -/
  class? : Option String
  attr : Json.Members

structure Section where
  slug : String
  title : Option String
  categories : List Category
  submit : Option SubmitSpec

/-- Attributes for all groups of one sort, and for their labels. -/
structure GroupDisplay where
  attr : List (String × Json)
  labelAttr : List (String × Json)

/-- Sections hold categories, categories hold questions. Both are layout only; the data of a form is
flat. -/
structure FormSchema where
  slug : String
  sections : List Section
  sectionDisplay : GroupDisplay
  categoryDisplay : GroupDisplay

def Section.questions (s : Section) : List Question :=
  s.categories.flatMap (·.questions)

/-- All questions in the order of the document, the layout left out. -/
def FormSchema.questions (s : FormSchema) : List Question :=
  s.sections.flatMap (·.questions)

end Questionnaire
