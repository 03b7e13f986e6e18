import Questionnaire.Json.Token

namespace Questionnaire.Json

/-- A container that waits for a value: the items it has, the last one first, or its members and
the key that was read. -/
inductive Frame where
  | array (items : List Json)
  | object (members : List (String × Json)) (key : String)

/-- What may come next. -/
inductive Reader where
  | value (stack : List Frame)
  | firstItem (stack : List Frame)
  | firstMember (stack : List Frame)
  | memberKey (stack : List Frame) (members : List (String × Json))
  | colon (stack : List Frame) (members : List (String × Json)) (key : String)
  | afterItem (stack : List Frame) (items : List Json)
  | afterMember (stack : List Frame) (members : List (String × Json))
  | complete (value : Json)

namespace Reader

/-- Hands a complete value to the innermost open container. -/
def give (v : Json) : List Frame → Reader
  | [] => .complete v
  | .array items :: rest => .afterItem rest (v :: items)
  | .object members key :: rest => .afterMember rest (setMember key v members)

/-- A value begins. At most `depth` containers may be open at once. -/
def begin? (depth : Nat) (stack : List Frame) : Token → Option Reader
  | .scalar v => some (give v stack)
  | .openArray => if stack.length < depth then some (.firstItem stack) else none
  | .openObject => if stack.length < depth then some (.firstMember stack) else none
  | _ => none

def step? (depth : Nat) : Reader → Token → Option Reader
  | .value stack, t => begin? depth stack t
  | .firstItem stack, .closeArray => some (give (.array []) stack)
  | .firstItem stack, t => begin? depth (.array [] :: stack) t
  | .firstMember stack, .closeObject => some (give (.object []) stack)
  | .firstMember stack, .scalar (.string key) => some (.colon stack [] key)
  | .memberKey stack members, .scalar (.string key) => some (.colon stack members key)
  | .colon stack members key, .colon => some (.value (.object members key :: stack))
  | .afterItem stack items, .comma => some (.value (.array items :: stack))
  | .afterItem stack items, .closeArray => some (give (.array items.reverse) stack)
  | .afterMember stack members, .comma => some (.memberKey stack members)
  | .afterMember stack members, .closeObject => some (give (.object members) stack)
  | _, _ => none

end Reader

/-- Reads a document whose containers nest at most `depth` levels. -/
def ofText? (depth : Nat) (s : String) : Option Json := do
  let tokens ← Token.scan? s
  match ← tokens.foldlM (Reader.step? depth) (.value []) with
  | .complete v => some v
  | _ => none

end Questionnaire.Json
