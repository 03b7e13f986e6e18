namespace Questionnaire.CommandLine

inductive OutputFormat where
  | text
  | json
  deriving DecidableEq, Repr

def OutputFormat.ofName? : String → Option OutputFormat
  | "text" => some .text
  | "json" => some .json
  | _ => none

/-- The files of a form and its data. -/
structure FormFiles where
  schema : String
  data : Option String
  config : Option String

inductive Command where
  | build (files : FormFiles)
  | visibility (files : FormFiles)
  | validate (schema : String)
  | constraints (config : Option String)

structure Invocation where
  command : Command
  output : OutputFormat
  /-- Only what was asked for is printed. -/
  quiet : Bool
  /-- All events are printed. -/
  verbose : Bool

inductive UsageError where
  | unexpected (argument : String)
  | repeated (option : String)
  | noValue (option : String)
  | invalidValue (option value : String)
  | noSchema
  | noCommand

def UsageError.message : UsageError → String
  | .unexpected argument => "error: unexpected argument '" ++ argument ++ "' found"
  | .repeated option => "error: the argument '--" ++ option ++ "' cannot be used multiple times"
  | .noValue option => "error: a value is required for '--" ++ option ++ "' but none was supplied"
  | .invalidValue option value =>
    "error: invalid value '" ++ value ++ "' for '--" ++ option ++ "'"
  | .noSchema => "error: the path of the form schema was not provided"
  | .noCommand => "error: a command is required: build, visibility, validate or constraints"

/-- The arguments of one place: options without a value, options with one, and all others. -/
structure Place where
  flags : List String
  values : List (String × String)
  words : List String

namespace Place

def empty : Place := ⟨[], [], []⟩

def flagNames : List String := ["quiet", "verbose"]

/-- The name of an option and the value joined to it by an equals sign. -/
def option? (argument : String) : Option (String × Option String) :=
  match argument.toList with
  | ['-', 'v'] => some ("verbose", none)
  | '-' :: '-' :: cs =>
    let name := String.ofList (cs.takeWhile (· != '='))
    match cs.dropWhile (· != '=') with
    | [] => some (name, none)
    | _ :: value => some (name, some (String.ofList value))
  | ['-'] => none
  | '-' :: cs => some (String.ofList cs, none)
  | _ => none

def addFlag (name : String) (p : Place) : Except UsageError Place :=
  if p.flags.contains name then .error (.repeated name)
  else .ok { p with flags := name :: p.flags }

def addValue (name value : String) (p : Place) : Except UsageError Place :=
  if value.isEmpty then .error (.noValue name)
  else if p.values.any (·.1 == name) then .error (.repeated name)
  else .ok { p with values := (name, value) :: p.values }

/-- Reads the arguments of a place, from the last to the first. The place before the command ends
at the first word; the others go on to the end. -/
def read (valueNames : List String) (stopAtWord : Bool) : List String → Except UsageError Place
  | [] => .ok empty
  | argument :: rest =>
    if argument == "--" then .ok { empty with words := rest }
    else match option? argument with
      | none =>
        if stopAtWord then .ok { empty with words := argument :: rest }
        else do
          let p ← read valueNames stopAtWord rest
          return { p with words := argument :: p.words }
      | some (name, joined) =>
        if flagNames.contains name && joined.isNone then do
          addFlag name (← read valueNames stopAtWord rest)
        else if valueNames.contains name then
          match joined, rest with
          | some value, rest => do addValue name value (← read valueNames stopAtWord rest)
          | none, value :: rest =>
            if (option? value).isSome then .error (.noValue name)
            else do addValue name value (← read valueNames stopAtWord rest)
          | none, [] => .error (.noValue name)
        else .error (.unexpected argument)

end Place

namespace Invocation

/-- The options with a value that a command has besides the global one. -/
def valueNames : String → List String
  | "build" | "visibility" => ["data", "config"]
  | "constraints" => ["config"]
  | _ => []

/-- The single path of a form schema. -/
def schemaOf : List String → Except UsageError String
  | [] | [""] => .error .noSchema
  | [schema] => .ok schema
  | _ :: word :: _ => .error (.unexpected word)

def commandOf (name : String) (p : Place) : Except UsageError Command :=
  match name with
  | "build" => do
    return .build ⟨← schemaOf p.words, p.values.lookup "data", p.values.lookup "config"⟩
  | "visibility" => do
    return .visibility ⟨← schemaOf p.words, p.values.lookup "data", p.values.lookup "config"⟩
  | "validate" => do return .validate (← schemaOf p.words)
  | "constraints" =>
    match p.words with
    | [] => .ok (.constraints (p.values.lookup "config"))
    | word :: _ => .error (.unexpected word)
  | _ => .error (.unexpected name)

def outputOf (p : Place) : Except UsageError (Option OutputFormat) :=
  match p.values.lookup "output" with
  | none => .ok none
  | some name =>
    match OutputFormat.ofName? name with
    | some format => .ok (some format)
    | none => .error (.invalidValue "output" name)

/-- Reads a command line. Some options are global: they may stand before the command or after it. An
option is given at most once in each of these places, and after the command it counts more. -/
def ofArguments (arguments : List String) : Except UsageError Invocation := do
  let before ← Place.read ["output"] true arguments
  match before.words with
  | [] => throw .noCommand
  | name :: rest =>
    let after ← Place.read ("output" :: valueNames name) false rest
    let command ← commandOf name after
    let outer ← outputOf before
    let inner ← outputOf after
    return {
      command := command
      output := inner.getD (outer.getD .text)
      quiet := before.flags.contains "quiet" || after.flags.contains "quiet"
      verbose := before.flags.contains "verbose" || after.flags.contains "verbose" }

end Invocation

end Questionnaire.CommandLine
