import Questionnaire.Constraint
import Questionnaire.Context
import Questionnaire.Json.Members
import Questionnaire.Kind

namespace Questionnaire

structure FieldDefinition where
  /-- The key of the question. -/
  name : String
  kind : Kind
  label : String
  required : Bool
  /-- No value leaves the host's own default in place. -/
  default : Option Value
  constraints : List Descriptor
  /-- Passed on from the question as they are. -/
  options : List (String × Json)
  /-- The fields of one entry of a collection. -/
  entryFields : List FieldDefinition

structure GroupHeader where
  name : String
  label : String
  attr : List (String × Json)
  labelAttr : List (String × Json)

/-- A submit button. -/
structure Action where
  name : String
  label : String
  attr : Json.Members

/-- The kind of action that there is. -/
def Action.kindName : String := "submit"

inductive FormNode where
  | group (header : GroupHeader) (children : List FormNode)
  | field (definition : FieldDefinition)
  | action (action : Action)

/-- What a build yields. Groups stand for sections and categories, fields for the questions that are
shown, actions for submit buttons. The data are those after seeding. -/
structure FormTree where
  name : String
  children : List FormNode
  data : Context

namespace FormNode

mutual

/-- The fields in the order of the document, at any depth. -/
def fields : FormNode → List FieldDefinition
  | .group _ children => fieldsOf children
  | .field f => [f]
  | .action _ => []

def fieldsOf : List FormNode → List FieldDefinition
  | [] => []
  | n :: rest => n.fields ++ fieldsOf rest

end

mutual

/-- The actions in the order of the document, at any depth. -/
def actions : FormNode → List Action
  | .group _ children => actionsOf children
  | .field _ => []
  | .action a => [a]

def actionsOf : List FormNode → List Action
  | [] => []
  | n :: rest => n.actions ++ actionsOf rest

end

theorem fieldsOf_append (ns ms : List FormNode) :
    fieldsOf (ns ++ ms) = fieldsOf ns ++ fieldsOf ms := by
  induction ns with
  | nil => rfl
  | cons n rest ih => simp [fieldsOf, ih]

theorem actionsOf_append (ns ms : List FormNode) :
    actionsOf (ns ++ ms) = actionsOf ns ++ actionsOf ms := by
  induction ns with
  | nil => rfl
  | cons n rest ih => simp [actionsOf, ih]

end FormNode

namespace FormTree

def fields (t : FormTree) : List FieldDefinition :=
  FormNode.fieldsOf t.children

def actions (t : FormTree) : List Action :=
  FormNode.actionsOf t.children

/-- The first field of a name. -/
def field? (t : FormTree) (name : String) : Option FieldDefinition :=
  t.fields.find? (·.name == name)

end FormTree

namespace FieldDefinition

mutual

/-- The members of a field's object; entry fields are left out if there are none. -/
def members : FieldDefinition → List (String × Json)
  | ⟨name, kind, label, required, default, constraints, options, entryFields⟩ =>
    [("name", .string name), ("kind", .string kind.token), ("label", .string label),
     ("required", .bool required), ("defaultValue", (default.map Value.toJson).getD .null),
     ("constraints", .array (constraints.map Descriptor.toJson)), ("options", .object options)] ++
    if entryFields.isEmpty then [] else [("entryFields", .array (objects entryFields))]

def objects : List FieldDefinition → List Json
  | [] => []
  | f :: rest => .object f.members :: objects rest

end

end FieldDefinition

namespace FormNode

mutual

/-- A node as JSON: the member `node` names its sort. -/
def toJson : FormNode → Json
  | .group header children =>
    .object [("node", .string "group"), ("name", .string header.name),
      ("label", .string header.label), ("attr", .object header.attr),
      ("labelAttr", .object header.labelAttr), ("children", .array (listToJson children))]
  | .field f => .object (("node", .string "field") :: f.members)
  | .action a =>
    .object [("node", .string "action"), ("name", .string a.name),
      ("kind", .string Action.kindName), ("label", .string a.label), ("attr", .object a.attr)]

def listToJson : List FormNode → List Json
  | [] => []
  | n :: rest => n.toJson :: listToJson rest

end

end FormNode

def FormTree.toJson (t : FormTree) : Json :=
  .object [("name", .string t.name), ("children", .array (FormNode.listToJson t.children)),
    ("data", t.data.toJson)]

end Questionnaire
