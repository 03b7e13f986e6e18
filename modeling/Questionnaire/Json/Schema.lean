import Questionnaire.Json.Printer

namespace Questionnaire.Json

/-- A schema of documents, made of some keywords of JSON Schema. A keyword says something about
documents of one type only and lets all others pass. -/
inductive Schema where
  /-- The document is of one of the types. -/
  | type (names : List String)
  /-- An object has these members. -/
  | required (names : List String)
  /-- If an object has the member, it conforms. -/
  | property (name : String) (schema : Schema)
  /-- The items of an array conform. -/
  | items (schema : Schema)
  /-- The items of an array conform to a definition, so that a schema can describe documents of
  any depth. -/
  | itemsNamed (definition : String)
  | maxItems (count : Nat)
  /-- The document is one of these texts. -/
  | enum (texts : List String)
  /-- A text has a character that is none of these. -/
  | hasCharacterBeyond (characters : List Char)
  | all (schemas : List Schema)
  | anyOf (schemas : List Schema)
  /-- If the document conforms to the first schema it conforms to the second, else to the third. -/
  | conditional (test yes no : Schema)

namespace Schema

inductive Fault where
  | wrongType (document : Json) (names : List String)
  | missing (name : String)
  | tooManyItems (document : Json) (count : Nat)
  | notListed (document : Json) (texts : List String)
  | noMatch (document : Json) (characters : List Char)
  | noAlternative (document : Json)

def Fault.message : Fault → String
  | .wrongType v [name] => v.compact ++ " is not of type " ++ quote name
  | .wrongType v names => v.compact ++ " is not of types " ++ ", ".intercalate (names.map quote)
  | .missing name => quote name ++ " is a required property"
  | .tooManyItems v count => v.compact ++ " has more than " ++ toString count ++ " items"
  | .notListed v texts => v.compact ++ " is not one of " ++ ", ".intercalate (texts.map quote)
  | .noMatch v characters =>
    v.compact ++ " does not match \"[^" ++ String.ofList characters ++ "]\""
  | .noAlternative v =>
    v.compact ++ " is not valid under any of the schemas listed in the 'anyOf' keyword"

/-- The faults of a document, in the order of the schema and, within it, of the document. Of an
alternative it is only said that all of it fails. -/
def faults (definitions : List (String × Schema)) (s : Schema) (v : Json) : List Fault :=
  match s with
  | .type names => if names.contains v.typeName then [] else [.wrongType v names]
  | .required names =>
    if v.isObject then (names.filter fun name => !v.hasMember name).map .missing else []
  | .property name s =>
    match _h : v.get? name with
    | some w => s.faults definitions w
    | none => []
  | .items s =>
    match v with
    | .array elements => elements.attach.flatMap fun ⟨w, _⟩ => s.faults definitions w
    | _ => []
  | .itemsNamed name =>
    match v, definitions.lookup name with
    | .array elements, some s => elements.attach.flatMap fun ⟨w, _⟩ => s.faults definitions w
    | _, _ => []
  | .maxItems count =>
    match v with
    | .array elements => if elements.length ≤ count then [] else [.tooManyItems v count]
    | _ => []
  | .enum texts => if v.string?.any texts.contains then [] else [.notListed v texts]
  | .hasCharacterBeyond characters =>
    match v with
    | .string text =>
      if text.toList.all characters.contains then [.noMatch v characters] else []
    | _ => []
  | .all ss => ss.attach.flatMap fun ⟨s, _⟩ => s.faults definitions v
  | .anyOf ss =>
    if ss.attach.any fun ⟨s, _⟩ => (s.faults definitions v).isEmpty then []
    else [.noAlternative v]
  | .conditional test yes no =>
    if (test.faults definitions v).isEmpty then yes.faults definitions v
    else no.faults definitions v
termination_by (sizeOf v, sizeOf s)
decreasing_by
  all_goals simp_wf
  · exact .left _ _ (sizeOf_get? ‹_›)
  · exact .left _ _ (Nat.lt_add_left 1 (List.sizeOf_lt_of_mem ‹_›))
  · exact .left _ _ (Nat.lt_add_left 1 (List.sizeOf_lt_of_mem ‹_›))
  · exact .right _ (Nat.lt_add_left 1 (List.sizeOf_lt_of_mem ‹_›))
  · exact .right _ (Nat.lt_add_left 1 (List.sizeOf_lt_of_mem ‹_›))
  all_goals exact .right _ (by omega)

end Schema

end Questionnaire.Json
