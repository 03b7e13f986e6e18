import Questionnaire.CommandLine.Arguments
import Questionnaire.CommandLine.ConfigFile
import Questionnaire.Form.Outline
import Questionnaire.Form.Report
import Questionnaire.Json.Reader
import Questionnaire.Validation

namespace Questionnaire.CommandLine

inductive ReadError where
  | notFound
  | notPermitted
  | isDirectory
  /-- The bytes are no UTF-8. -/
  | notText
  | failed (message : String)

def ReadError.message : ReadError → String
  | .notFound => "No such file or directory (os error 2)"
  | .notPermitted => "Permission denied (os error 13)"
  | .isDirectory => "Is a directory (os error 21)"
  | .notText => "stream did not contain valid UTF-8"
  | .failed message => message

abbrev Files := String → Except ReadError String

/-- Why a run stops. -/
inductive Failure where
  | unreadable (what path : String) (error : ReadError)
  | notJson (path : String)
  | invalidConfig (path : String)
  | build (error : BuildError)

def Failure.message : Failure → String
  | .unreadable what path error =>
    "error reading " ++ what ++ " file '" ++ path ++ "': " ++ error.message
  | .notJson path => "error parsing JSON in '" ++ path ++ "'"
  | .invalidConfig path => "invalid config file '" ++ path ++ "'"
  | .build error => "error: " ++ error.message

/-- What a run comes to: lines for the two outputs, an exit code, and events. -/
structure Outcome where
  exitCode : Nat
  stdout : List String
  events : List Event
  stderr : List String

/-- Levels of nesting that JSON files may have. -/
def maxJsonDepth : Nat := 127

def readJson (files : Files) (what path : String) : Except Failure Json :=
  match files path with
  | .error e => .error (.unreadable what path e)
  | .ok text =>
    match Json.ofText? maxJsonDepth text with
    | some v => .ok v
    | none => .error (.notJson path)

/-- The data of a form; without a file there is none. -/
def readData (files : Files) : Option String → Except Failure Json
  | none => .ok .null
  | some path => readJson files "data" path

/-- The configuration, and what reading it reports. -/
def readConfig (files : Files) : Option String → Except Failure (Config × List Event)
  | none => .ok ({}, [])
  | some path =>
    match files path with
    | .error e => .error (.unreadable "config" path e)
    | .ok text =>
      match Config.ofText? text with
      | some config => .ok (config, [.configurationLoaded path])
      | none => .error (.invalidConfig path)

namespace Outcome

def success (events : List Event) (stdout : List String) : Outcome :=
  ⟨0, stdout, events, []⟩

/-- A run that stops. -/
def failure (i : Invocation) (events : List Event) (e : Failure) : Outcome :=
  let report := match i.output with
    | .text => e.message
    | .json => (Json.object [("error", .string e.message)]).compact
  ⟨1, [], events, if i.quiet then [] else [report]⟩

end Outcome

def treeLines (i : Invocation) (t : FormTree) : List String :=
  match i.output with
  | .json => [t.toJson.pretty]
  | .text => (if i.quiet then [] else ["form " ++ t.name]) ++ t.outline.map ("  " ++ ·)

def decisionLine (d : Decision) : String :=
  d.sectionSlug ++ "/" ++ d.categorySlug ++ "/" ++ d.key ++ ": " ++
    (if d.visible then "shown" else "hidden") ++
    match d.rule with
    | .none => ""
    | .rule => " (rule)"
    | .malformed => " (malformed rule ignored)"

def decisionLines (i : Invocation) (ds : List Decision) : List String :=
  match i.output with
  | .json => [(Json.array (ds.map Decision.toJson)).pretty]
  | .text =>
    let hidden := (ds.filter fun d => !d.visible).length
    ds.map decisionLine ++
      if i.quiet then []
      else [toString ds.length ++ " questions, " ++ toString hidden ++ " hidden"]

def registryLines (i : Invocation) (registry : Registry) : List String :=
  match i.output with
  | .json =>
    [(Json.array (registry.entries.map fun (name, options) =>
      .object [("name", .string name), ("requiresOneOf", .array (options.map .string))])).pretty]
  | .text =>
    registry.entries.map fun (name, options) =>
      if options.isEmpty then name else name ++ " (one of: " ++ ", ".intercalate options ++ ")"

/-- Reads the files of a form: its configuration, schema and data. -/
def withFormFiles (i : Invocation) (files : Files) (f : FormFiles)
    (go : Config → List Event → Json → Json → Outcome) : Outcome :=
  match readConfig files f.config with
  | .error e => .failure i [] e
  | .ok (config, events) =>
    match readJson files "schema" f.schema, readData files f.data with
    | .error e, _ | .ok _, .error e => .failure i events e
    | .ok schema, .ok data => go config events schema data

def build (i : Invocation) (files : Files) (f : FormFiles) : Outcome :=
  withFormFiles i files f fun config events schema data =>
    let journal := buildForm config schema data
    match journal.result with
    | .ok t => .success (events ++ journal.events) (treeLines i t)
    | .error e => .failure i (events ++ journal.events) (.build e)

def visibility (i : Invocation) (files : Files) (f : FormFiles) : Outcome :=
  withFormFiles i files f fun config events schema data =>
    match reportVisibility config schema data with
    | .ok decisions => .success events (decisionLines i decisions)
    | .error e => .failure i events (.build e)

def validate (i : Invocation) (files : Files) (path : String) : Outcome :=
  match readJson files "schema" path with
  | .error e => .failure i [] e
  | .ok document =>
    match (Validation.objections document).map (·.message), i.output with
    | [], .text => .success [] (if i.quiet then [] else ["valid"])
    | [], .json =>
      .success [] (if i.quiet then [] else [(Json.object [("valid", .bool true)]).compact])
    | messages, .text =>
      ⟨1, [], [], if i.quiet then [] else "invalid form schema" :: messages.map ("  - " ++ ·)⟩
    | messages, .json =>
      ⟨1, [], [], [(Json.object [("valid", .bool false),
        ("errors", .array (messages.map .string))]).pretty]⟩

def constraints (i : Invocation) (files : Files) (path : Option String) : Outcome :=
  match readConfig files path with
  | .error e => .failure i [] e
  | .ok (config, events) => .success events (registryLines i config.registry)

/-- Carries out an invocation. -/
def Invocation.run (i : Invocation) (files : Files) : Outcome :=
  match i.command with
  | .build f => build i files f
  | .visibility f => visibility i files f
  | .validate path => validate i files path
  | .constraints path => constraints i files path

/-- The files that an invocation reads. -/
def Invocation.paths (i : Invocation) : List String :=
  match i.command with
  | .build f | .visibility f => f.config.toList ++ [f.schema] ++ f.data.toList
  | .validate path => [path]
  | .constraints path => path.toList

/-- Whether an event is printed: warnings unless the run is quiet, and all if it is verbose. -/
def Invocation.prints (i : Invocation) (e : Event) : Bool :=
  i.verbose || (e.isWarning && !i.quiet)

/-- All lines for the error output; events come first. -/
def Outcome.errorLines (i : Invocation) (o : Outcome) : List String :=
  (o.events.filter i.prints).map Event.line ++ o.stderr

/-- The outcome of a command line that makes no sense. -/
def UsageError.outcome (e : UsageError) : Outcome :=
  ⟨2, [], [], [e.message]⟩

end Questionnaire.CommandLine
