import Questionnaire.Json.Basic
import Questionnaire.Number.Binary64

namespace Questionnaire

namespace Toml

/-- How a table came about. -/
inductive TableKind where
  /-- A header of its own, or being an item of an array of tables. -/
  | header
  /-- The header of a table inside it. -/
  | implied
  /-- A dotted key. -/
  | dotted
  /-- Braces on one line. -/
  | inline
  deriving DecidableEq

end Toml

inductive Toml where
  | string (value : String)
  | integer (value : Int64)
  | float (value : Number.Binary64)
  | boolean (value : Bool)
  /-- A date, a time of day or both, as it is written. -/
  | dateTime (written : String)
  | array (items : List Toml)
  | table (kind : Toml.TableKind) (members : List (String × Toml))
  /-- An array whose items have a header each. -/
  | tables (items : List (List (String × Toml)))
  deriving Inhabited

namespace Toml

abbrev Members := List (String × Toml)

/-- Levels that arrays, inline tables and dotted keys may have. -/
def maxLevels : Nat := 79

/-- Changes the table at the end of a path, which a dotted key or a header spells out. Tables that
are missing on the way come into being; of an array of tables the last item is meant. What is
complete cannot be added to: inline tables, and for dotted keys also tables with a header. -/
def changeAt? (dotted : Bool) (change : TableKind → Members → Option Members) :
    List String → TableKind → Members → Option Members
  | [], kind, ms => change kind ms
  | key :: path, _, ms =>
    match ms.lookup key with
    | none =>
      let kind := if dotted then .dotted else .implied
      (changeAt? dotted change path kind []).map fun inner => ms ++ [(key, .table kind inner)]
    | some (.table kind inner) =>
      if kind = .inline ∨ (dotted ∧ kind = .header) then none
      else (changeAt? dotted change path kind inner).map fun inner =>
        Json.setMember key (.table kind inner) ms
    | some (.tables items) => do
      let inner ← changeAt? dotted change path .header (← items.getLast?)
      return Json.setMember key (.tables (items.dropLast ++ [inner])) ms
    | some _ => none

/-- Adds a member under a dotted key: `path` and then `key`. Each key is given once, and only dotted
keys add to a table that dotted keys have made. -/
def assign? (path : List String) (key : String) (value : Toml) :
    TableKind → Members → Option Members :=
  let add := fun (kind : TableKind) (ms : Members) =>
    if (kind == .dotted) == path.isEmpty || (ms.lookup key).isSome then none
    else some (ms ++ [(key, value)])
  changeAt? true add path

/-- Opens the table of a header. A table is opened once. -/
def openTable? (path : List String) (key : String) : Members → Option Members :=
  let add := fun (_ : TableKind) (ms : Members) =>
    match ms.lookup key with
    | none => some (ms ++ [(key, .table .header [])])
    | some (.table .implied inner) => some (Json.setMember key (.table .header inner) ms)
    | some _ => none
  changeAt? false add path .header

/-- Appends an empty table to an array of tables. -/
def appendTable? (path : List String) (key : String) : Members → Option Members :=
  let add := fun (_ : TableKind) (ms : Members) =>
    match ms.lookup key with
    | none => some (ms ++ [(key, .tables [[]])])
    | some (.tables items) => some (Json.setMember key (.tables (items ++ [[]])) ms)
    | some _ => none
  changeAt? false add path .header

end Toml

end Questionnaire
