import Questionnaire.Form.Binding

namespace Questionnaire

/-- A text in double quotes, which are not escaped inside. -/
def quotedLabel (label : String) : String :=
  "\"" ++ label ++ "\""

namespace FieldDefinition

/-- The line of a field: name, kind and label, then what is special about it. -/
def line (f : FieldDefinition) : String :=
  f.name ++ " [" ++ f.kind.token ++ "] " ++ quotedLabel f.label ++
    (if f.required then " required" else "") ++
    (match f.default with
    | some v => " = " ++ v.toJson.compact
    | none => "") ++
    if f.constraints.isEmpty then ""
    else " (" ++ ", ".intercalate (f.constraints.map (·.kind)) ++ ")"

mutual

/-- The line of a field, and the lines of its entry fields. -/
def outline : FieldDefinition → List String
  | ⟨name, kind, label, required, default, constraints, options, entryFields⟩ =>
    line ⟨name, kind, label, required, default, constraints, options, entryFields⟩ ::
      (outlineAll entryFields).map ("  - " ++ ·)

def outlineAll : List FieldDefinition → List String
  | [] => []
  | f :: rest => f.outline ++ outlineAll rest

end

end FieldDefinition

def Action.line (a : Action) : String :=
  "<" ++ Action.kindName ++ "> " ++ a.name ++ " " ++ quotedLabel a.label

def GroupHeader.line (g : GroupHeader) : String :=
  g.name ++ " " ++ quotedLabel g.label

/-- The host that writes lines. -/
def outlineSink : Sink Id (List String) where
  field := FieldDefinition.outline
  action a := [a.line]
  group header children := header.line :: children.flatten.map ("  " ++ ·)

def FormTree.outline (t : FormTree) : List String :=
  (Id.run (t.bindInto outlineSink)).flatten

end Questionnaire
