import Questionnaire.Constraint
import Questionnaire.Condition.Evaluation

namespace Questionnaire

/-- What to do with a question whose value does not suit its kind. -/
inductive CoercionPolicy where
  /-- The whole build fails. -/
  | abort
  /-- The question is left out. -/
  | skip
  deriving DecidableEq, Repr, Inhabited

namespace CoercionPolicy

def name : CoercionPolicy → String
  | .abort => "abort"
  | .skip => "skip"

def ofName? : String → Option CoercionPolicy
  | "abort" => some .abort
  | "skip" => some .skip
  | _ => none

theorem ofName?_name (p : CoercionPolicy) : ofName? p.name = some p := by
  cases p <;> rfl

end CoercionPolicy

/-- The settings of a build, each with a default. -/
structure Config where
  submitName : String := "submit"
  submitLabel : String := "Send"
  submitClass : String := "btn btn-primary"
  maxConditionDepth : Nat := Group.defaultLimit
  onCoercionError : CoercionPolicy := .abort
  /-- Constraint names that are known besides the built-in ones. -/
  extraConstraints : List String := []
  deriving DecidableEq, Inhabited

/-- The written value of a setting. -/
inductive Setting where
  | text (value : String)
  | natural (value : Nat)
  | texts (values : List String)
  /-- A choice written out as a container with one empty member. -/
  | choice (name : String)
  deriving DecidableEq

namespace Config

def registry (config : Config) : Registry :=
  Registry.builtin.withExtra config.extraConstraints

/-- Depths have 64 bits. -/
def depthBound : Nat := 2 ^ 64

/-- The names of the settings, in the order in which they are given by position. -/
def settingNames : List String :=
  ["submit_name", "submit_label", "submit_class", "max_condition_depth", "on_coercion_error",
   "extra_constraints"]

/-- Changes one setting; an unknown name or a value of the wrong sort is refused. -/
def set? (config : Config) (name : String) (value : Setting) : Option Config :=
  match name, value with
  | "submit_name", .text s => some { config with submitName := s }
  | "submit_label", .text s => some { config with submitLabel := s }
  | "submit_class", .text s => some { config with submitClass := s }
  | "max_condition_depth", .natural n =>
    if n < depthBound then some { config with maxConditionDepth := n } else none
  | "on_coercion_error", .text s | "on_coercion_error", .choice s =>
    (CoercionPolicy.ofName? s).map fun p => { config with onCoercionError := p }
  | "extra_constraints", .texts names => some { config with extraConstraints := names }
  | _, _ => none

/-- The defaults with the given settings changed. -/
def ofSettings? (settings : List (String × Setting)) : Option Config :=
  settings.foldlM (fun config s => config.set? s.1 s.2) {}

end Config

/-- The setting that a JSON document writes. -/
def Setting.ofJson? : Json → Option Setting
  | .string s => some (.text s)
  | .number (.integer n _) => if 0 ≤ n then some (.natural n.toNat) else none
  | .array items => (items.mapM Json.string?).map .texts
  | .object [(name, .null)] => some (.choice name)
  | _ => none

/-- Reads settings from an object, or by position from an array that may be too short. -/
def Config.ofJson? : Json → Option Config
  | .object members => do
    ofSettings? (← members.mapM fun m => (Setting.ofJson? m.2).map (m.1, ·))
  | .array items => do
    if settingNames.length < items.length then failure
    ofSettings? (settingNames.zip (← items.mapM Setting.ofJson?))
  | _ => none

end Questionnaire
