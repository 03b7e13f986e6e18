import Questionnaire.Json.Schema
import Questionnaire.Schema.Reader

namespace Questionnaire.Validation

open Questionnaire.Json (Schema)
open Questionnaire.Json.Schema (Fault)

def text : Schema := .type ["string"]

def object : Schema := .type ["object"]

/-- An array whose items are described by a definition. -/
def listOf (definition : String) : Schema :=
  .all [.type ["array"], .itemsNamed definition]

def emptyArray : Schema :=
  .all [.type ["array"], .maxItems 0]

/-- The blanks that a slug may not consist of. -/
def slugBlanks : List Char :=
  [' ', '\t', '\n', '\r', '\x0b', '\x0c', '\u00a0', '\ufeff', '\u2003', '\u2029']

def slug : Schema :=
  .all [text, .hasCharacterBeyond slugBlanks]

def groupDisplay : Schema :=
  .all [object, .property "attr" object, .property "label_attr" object]

def submit : Schema :=
  .anyOf [.type ["array"],
    .all [object, .property "label" text, .property "class" text, .property "attr" object]]

/-- A section, and what it has in common with a category: a slug, a title and a list. -/
def layout (list definition : String) : List Schema :=
  [object, .required ["slug"], .property "slug" slug, .property "title" text,
    .property list (listOf definition)]

def formSection : Schema :=
  .all (layout "categories" "category" ++ [.property "submit" submit])

def category : Schema :=
  .all (layout "questions" "question")

def conditionGroup : Schema :=
  .all [object, .property "operator" (.enum ["AND", "OR", "NOT"]),
    .property "conditions" (listOf "conditionNode")]

/-- A node with both members of a group is one. -/
def conditionNode : Schema :=
  .all [object, .conditional (.required ["operator", "conditions"]) conditionGroup
    (.all [.required ["field"], .property "field" text, .property "in" (.type ["array"]),
      .property "notIn" (.type ["array"])])]

def question : Schema :=
  .all [object, .required ["key", "type"], .property "key" text, .property "type" text,
    .property "label" text, .property "required" (.type ["boolean"]),
    .property "constraints" (.anyOf [.type ["object", "null"], emptyArray]),
    .property "displayDependencies" (.anyOf [.type ["null"], emptyArray, conditionGroup]),
    .property "fields" (listOf "question")]

def definitions : List (String × Schema) :=
  [("section", formSection), ("category", category), ("question", question),
   ("conditionNode", conditionNode)]

/-- A form document. -/
def form : Schema :=
  .all [object, .required ["slug", "sections"], .property "slug" text,
    .property "sections" (listOf "section"),
    .property "displayOptions" (.all [object, .property "sections" groupDisplay,
      .property "categories" groupDisplay])]

/-- Why a document is no valid form. -/
inductive Objection where
  | shape (fault : Fault)
  | reading (error : SchemaError)

def Objection.message : Objection → String
  | .shape fault => fault.message
  | .reading error => error.message

/-- All that is wrong with a document: nothing if it is valid. -/
def objections (v : Json) : List Objection :=
  match form.faults definitions v with
  | [] =>
    match FormSchema.ofJson v with
    | .ok _ => []
    | .error e => [.reading e]
  | faults => faults.map .shape

end Questionnaire.Validation
