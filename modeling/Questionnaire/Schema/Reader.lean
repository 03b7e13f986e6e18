import Questionnaire.Schema.Basic
import Questionnaire.Condition.Reader
import Questionnaire.Text.Blank

namespace Questionnaire

inductive DocumentFault where
  | notObject
  | slugNotText
  | sectionsNotArray
  deriving DecidableEq

inductive QuestionFault where
  | notObject
  | noKeyOrType
  | constraintsNotObject
  deriving DecidableEq

inductive SchemaError where
  | missingMember (name : String)
  | document (fault : DocumentFault)
  /-- A section without a slug. -/
  | sectionSlug (index : Nat)
  /-- A category without a slug. -/
  | categorySlug (sectionSlug : String) (index : Nat)
  | question (scope : String) (index : Nat) (fault : QuestionFault)
  | conditionsTooDeep (key : String)
  deriving DecidableEq

def DocumentFault.message : DocumentFault → String
  | .notObject => "schema must be a JSON object"
  | .slugNotText => "'slug' must be a string"
  | .sectionsNotArray => "'sections' must be an array"

def QuestionFault.message : QuestionFault → String
  | .notObject => "question must be a JSON object"
  | .noKeyOrType => "each question must have at least a 'key' and a 'type'"
  | .constraintsNotObject => "'constraints' must be an object"

def SchemaError.message : SchemaError → String
  | .missingMember name => "schema missing required field: '" ++ name ++ "'"
  | .document fault => "invalid schema document: " ++ fault.message
  | .sectionSlug index =>
    "section #" ++ toString index ++ ": each section must have a 'slug' (non-empty string)"
  | .categorySlug name index =>
    "category #" ++ toString index ++ " in section '" ++ name ++
      "': each category must have a 'slug' (non-empty string)"
  | .question scope index fault =>
    "question #" ++ toString index ++ " in '" ++ scope ++ "': " ++ fault.message
  | .conditionsTooDeep key =>
    "conditions of question '" ++ key ++ "' nest deeper than " ++ toString Group.maxLevels ++
      " levels"

/-- The block of constraints. Null and the empty array stand for no block. -/
def constraintsOf? (v : Json) : Except QuestionFault (Option (List (String × Json))) :=
  match v.get? "constraints" with
  | none | some .null | some (.array []) => .ok none
  | some (.object members) => .ok (some members)
  | some _ => .error .constraintsNotObject

namespace Dependencies

/-- Reads a block; a blank one stands for none. `none` outside means that its groups nest too
deep. -/
def ofBlock? (block : Json) : Option (Option Dependencies) :=
  if block.isBlank then some none
  else if Condition.isGroupNode block then (Group.ofJson? block).map fun g => some (.rule g)
  else some (some (.malformed block))

end Dependencies

namespace Question

/-- The members that a question has of its own; all others are options. -/
def memberKeys : List String :=
  ["key", "type", "label", "required", "data", "constraints", "displayDependencies", "fields"]

def optionsOf (members : List (String × Json)) : List (String × Json) :=
  members.filter fun m => !memberKeys.contains m.1

/-- Key and type, both texts. -/
def headOf? (v : Json) : Except QuestionFault (String × String) :=
  if v.isObject then
    match v.getString? "key", v.getString? "type" with
    | some key, some type => .ok (key, type)
    | _, _ => .error .noKeyOrType
  else .error .notObject

/-- All of a question but its entry fields, which are given. -/
def assemble (v : Json) (key type : String) (constraints : Option (List (String × Json)))
    (dependencies : Option Dependencies) (fields : List Question) : Question where
  key := key
  type := type
  label := v.getString? "label"
  required := (v.get? "required").bind Json.bool?
  data := v.getNonNull? "data"
  constraints := constraints
  dependencies := dependencies
  fields := fields
  options := optionsOf (v.object?.getD [])

/-- All of a question but its entry fields, with its key; the checks in their order. -/
def shellOf (scope : String) (index : Nat) (v : Json) :
    Except SchemaError (String × (List Question → Question)) := do
  let fault := fun f => SchemaError.question scope index f
  let (key, type) ← (headOf? v).mapError fault
  let constraints ← (constraintsOf? v).mapError fault
  match Dependencies.ofBlock? ((v.get? "displayDependencies").getD .null) with
  | none => .error (.conditionsTooDeep key)
  | some dependencies => return (key, assemble v key type constraints dependencies)

mutual

/-- Reads a question; `scope` and `index` say where it stands. -/
def ofJson (scope : String) (index : Nat) : Json → Except SchemaError Question
  | .object members => do
    let (key, question) ← shellOf scope index (.object members)
    let fields ← entryFieldsOf (scope ++ ":" ++ key) members
    return question fields
  | _ => .error (.question scope index .notObject)

/-- Reads the questions of the member `fields`, if it is an array. -/
def entryFieldsOf (scope : String) : List (String × Json) → Except SchemaError (List Question)
  | [] => .ok []
  | (key, v) :: rest =>
    if "fields" == key then
      match v with
      | .array items => listOfJson scope 0 items
      | _ => .ok []
    else entryFieldsOf scope rest

/-- Reads questions in order, the first at the given index. -/
def listOfJson (scope : String) (index : Nat) : List Json → Except SchemaError (List Question)
  | [] => .ok []
  | v :: rest => do
    let question ← ofJson scope index v
    let others ← listOfJson scope (index + 1) rest
    return question :: others

end

end Question

/-- A slug: a text in which not all is blank. -/
def slugOf? (v : Json) : Option String :=
  (v.getString? "slug").filter Text.hasInk

namespace Category

def ofJson (sectionSlug : String) (index : Nat) (v : Json) : Except SchemaError Category := do
  match slugOf? v with
  | none => .error (.categorySlug sectionSlug index)
  | some slug =>
    let questions ← Question.listOfJson (sectionSlug ++ "/" ++ slug) 0 (v.getItems "questions")
    return ⟨slug, v.getString? "title", questions⟩

def listOfJson (sectionSlug : String) (index : Nat) :
    List Json → Except SchemaError (List Category)
  | [] => .ok []
  | v :: rest => do
    let category ← ofJson sectionSlug index v
    let others ← listOfJson sectionSlug (index + 1) rest
    return category :: others

end Category

/-- An object gives the settings of the button, an array asks for the usual ones. -/
def SubmitSpec.ofJson? : Option Json → Option SubmitSpec
  | some (.object members) =>
    let v := Json.object members
    some ⟨v.getString? "label", v.getString? "class", .ofList (v.getMembers "attr")⟩
  | some (.array _) => some ⟨none, none, .empty⟩
  | _ => none

namespace Section

def ofJson (index : Nat) (v : Json) : Except SchemaError Section := do
  match slugOf? v with
  | none => .error (.sectionSlug index)
  | some slug =>
    let categories ← Category.listOfJson slug 0 (v.getItems "categories")
    return ⟨slug, v.getString? "title", categories, SubmitSpec.ofJson? (v.get? "submit")⟩

def listOfJson (index : Nat) : List Json → Except SchemaError (List Section)
  | [] => .ok []
  | v :: rest => do
    let sectionHead ← ofJson index v
    let others ← listOfJson (index + 1) rest
    return sectionHead :: others

end Section

def GroupDisplay.ofJson (v : Option Json) : GroupDisplay where
  attr := (v.map (·.getMembers "attr")).getD []
  labelAttr := (v.map (·.getMembers "label_attr")).getD []

namespace FormSchema

/-- The slug and the items of `sections`. -/
def headOf (v : Json) : Except SchemaError (String × List Json) := do
  if !v.isObject then throw (.document .notObject)
  let sections ← match v.getNonNull? "sections" with
    | none => throw (.missingMember "sections")
    | some sections => pure sections
  let slug ← match v.getNonNull? "slug" with
    | none => throw (.missingMember "slug")
    | some (.string slug) => pure slug
    | some _ => throw (.document .slugNotText)
  match sections with
  | .array items => return (slug, items)
  | _ => throw (.document .sectionsNotArray)

/-- Reads a document. -/
def ofJson (v : Json) : Except SchemaError FormSchema := do
  let (slug, items) ← headOf v
  let sections ← Section.listOfJson 0 items
  let display := fun name => GroupDisplay.ofJson ((v.get? "displayOptions").bind (·.get? name))
  return ⟨slug, sections, display "sections", display "categories"⟩

end FormSchema

end Questionnaire
