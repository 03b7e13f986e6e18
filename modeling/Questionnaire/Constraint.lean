import Questionnaire.Table
import Questionnaire.Json.Basic

namespace Questionnaire

/-- A constraint as the host gets it. Constraints are not checked here. -/
structure Descriptor where
  kind : String
  options : Option (List (String × Json))

inductive ConstraintError where
  | unknown (name : String)
  /-- None of the options is there of which the constraint needs one. -/
  | missingOption (name : String) (required : List String)
  deriving DecidableEq

def ConstraintError.message : ConstraintError → String
  | .unknown name => "unknown constraint '" ++ name ++ "'"
  | .missingOption name required =>
    "constraint '" ++ name ++ "': requires one of the options: " ++ ", ".intercalate required

/-- For each known name, the options of which at least one must be there; no options, no need. -/
abbrev Registry := Table (List String)

namespace Registry

def builtinEntries : List (String × List String) :=
  let compared := ["value", "propertyPath"]
  [("All", []), ("Bic", []), ("Blank", []), ("CardScheme", ["schemes"]),
   ("Choice", ["choices", "callback"]), ("Count", ["min", "max", "exactly"]), ("Country", []),
   ("CssColor", []), ("Currency", []), ("Date", []), ("DateTime", []), ("DivisibleBy", compared),
   ("Email", []), ("EqualTo", compared), ("Expression", ["expression"]), ("File", []),
   ("GreaterThan", compared), ("GreaterThanOrEqual", compared), ("Hostname", []), ("Iban", []),
   ("IdenticalTo", compared), ("Image", []), ("Ip", []), ("IsFalse", []), ("IsNull", []),
   ("IsTrue", []), ("Isbn", []), ("Issn", []), ("Json", []), ("Language", []),
   ("Length", ["min", "max", "exactly"]), ("LessThan", compared), ("LessThanOrEqual", compared),
   ("Locale", []), ("Luhn", []), ("Negative", []), ("NegativeOrZero", []), ("NotBlank", []),
   ("NotEqualTo", compared), ("NotIdenticalTo", compared), ("NotNull", []), ("Positive", []),
   ("PositiveOrZero", []), ("Range", ["min", "max", "minPropertyPath", "maxPropertyPath"]),
   ("Regex", ["pattern"]), ("Time", []), ("Timezone", []), ("Type", ["type"]), ("Ulid", []),
   ("Unique", []), ("Url", []), ("Uuid", []), ("WordCount", ["min", "max"])]

def builtin : Registry :=
  Table.ofList builtinEntries

/-- Adds a name that needs no options, unless it is known already. -/
def addName (r : Registry) (name : String) : Registry :=
  if r.contains name then r else r.insert name []

def withExtra (r : Registry) (names : List String) : Registry :=
  names.foldl addName r

/-- The descriptor of one constraint. Options that are no object are dropped. -/
def describe (r : Registry) (name : String) (options : Json) :
    Except ConstraintError Descriptor :=
  match r.get? name with
  | none => .error (.unknown name)
  | some required =>
    if required.isEmpty || required.any options.hasMember then .ok ⟨name, options.object?⟩
    else .error (.missingOption name required)

/-- The descriptors of a block, in its order; the first constraint that is refused decides. -/
def describeAll (r : Registry) : List (String × Json) → Except ConstraintError (List Descriptor)
  | [] => .ok []
  | (name, options) :: rest => do
    let descriptor ← r.describe name options
    let others ← r.describeAll rest
    return descriptor :: others

end Registry

def Descriptor.toJson (c : Descriptor) : Json :=
  .object (("kind", .string c.kind) ::
    match c.options with
    | some options => [("options", .object options)]
    | none => [])

end Questionnaire
