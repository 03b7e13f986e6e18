import Questionnaire.Form.Config
import Questionnaire.Toml.Reader

namespace Questionnaire

/-- Whether a value is a container without contents. -/
def Toml.isEmptyContainer : Toml → Bool
  | .array items => items.isEmpty
  | .table _ members => members.isEmpty
  | _ => false

def Toml.text? : Toml → Option String
  | .string s => some s
  | _ => none

/-- The setting that a value writes. -/
def Setting.ofToml? : Toml → Option Setting
  | .string s => some (.text s)
  | .integer n => if 0 ≤ n.toInt then some (.natural n.toInt.toNat) else none
  | .array items => (items.mapM Toml.text?).map .texts
  | .table _ [(name, v)] => if v.isEmptyContainer then some (.choice name) else none
  | _ => none

namespace Config

/-- Reads settings from a table, or by position from an array; items that no setting is left for
do not matter. -/
def ofToml? : Toml → Option Config
  | .table _ members => do
    ofSettings? (← members.mapM fun m => (Setting.ofToml? m.2).map (m.1, ·))
  | .array items => do
    ofSettings? (settingNames.zip (← (items.take settingNames.length).mapM Setting.ofToml?))
  | _ => none

/-- The configuration that the text of a file writes. -/
def ofText? (s : String) : Option Config :=
  match Toml.ofText? s with
  | some [] => some {}
  | some [("build", v)] => ofToml? v
  | _ => none

end Config

end Questionnaire
