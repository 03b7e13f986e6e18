import Questionnaire.Table
import Questionnaire.Json.Printer
import Questionnaire.Number.Reading
import Questionnaire.Calendar.Text

namespace Questionnaire

open Questionnaire.Number (Decimal Binary64 Reading OrderTest)

/-- A file that the host has received. -/
structure FileHandle where
  path : String
  /-- The name that the file had at its sender. -/
  sentName : Option String
  mimeType : Option String
  size : Option Nat
  deriving DecidableEq

namespace FileHandle

/-- The parts of a path that lead to the file: repeated slashes and single points do not, but a
slash in front does, and so does a point there. -/
def steps (path : String) : List String :=
  let parts := path.splitOn "/"
  let names := parts.filter fun part => part != "" && part != "."
  match parts with
  | "" :: _ :: _ => "/" :: names
  | "." :: _ => "." :: names
  | _ => names

/-- Whether two handles describe the same file in the same way. -/
def same (a b : FileHandle) : Bool :=
  steps a.path == steps b.path && a.sentName == b.sentName &&
    a.mimeType == b.mimeType && a.size == b.size

def jsonOfText (s : Option String) : Json :=
  (s.map Json.string).getD .null

def jsonOfSize (n : Option Nat) : Json :=
  ((n.bind fun n => Json.Number.integer? n).map Json.number).getD .null

/-- An object that describes the file; what is not known is null. -/
def toJson (f : FileHandle) : Json :=
  .object [("path", .string f.path), ("originalName", jsonOfText f.sentName),
    ("mimeType", jsonOfText f.mimeType), ("size", jsonOfSize f.size)]

end FileHandle

/-- What the data of a form is made of. -/
inductive Value where
  | null
  | bool (value : Bool)
  | int (value : Int64)
  | decimal (value : Decimal)
  /-- A number that a decimal cannot hold. -/
  | float (value : Binary64)
  | text (value : String)
  | list (items : List Value)
  /-- The entries are in the order of their keys. -/
  | map (entries : List (String × Value))
  | date (value : Calendar.Date)
  | moment (value : Calendar.Moment)
  | time (value : Calendar.TimeOfDay)
  | file (value : FileHandle)
  deriving Inhabited

namespace Value

/-- The name of the constructor, as messages give it. -/
def typeName : Value → String
  | .null => "Null"
  | .bool _ => "Bool"
  | .int _ => "Int"
  | .decimal _ => "Decimal"
  | .float _ => "Float"
  | .text _ => "Text"
  | .list _ => "List"
  | .map _ => "Map"
  | .date _ => "Date"
  | .moment _ => "DateTime"
  | .time _ => "Time"
  | .file _ => "File"

def isNull : Value → Bool
  | .null => true
  | _ => false

def isTemporal : Value → Bool
  | .date _ | .moment _ | .time _ => true
  | _ => false

def text? : Value → Option String
  | .text s => some s
  | _ => none

mutual

/-- Equality is strict: values of different constructors are never equal. Between two numbers of the
same constructor, and between two moments, it goes by what they denote. -/
def equal : Value → Value → Bool
  | .null, .null => true
  | .bool a, .bool b => a == b
  | .int a, .int b => a == b
  | .decimal a, .decimal b => a.equal b
  | .float a, .float b => a.equal b
  | .text a, .text b => a == b
  | .list a, .list b => equalItems a b
  | .map a, .map b => equalEntries a b
  | .date a, .date b => a == b
  | .moment a, .moment b => a.sameInstant b
  | .time a, .time b => a == b
  | .file a, .file b => a.same b
  | _, _ => false

def equalItems : List Value → List Value → Bool
  | [], [] => true
  | a :: as, b :: bs => a.equal b && equalItems as bs
  | _, _ => false

def equalEntries : List (String × Value) → List (String × Value) → Bool
  | [], [] => true
  | (k, a) :: as, (l, b) :: bs => k == l && a.equal b && equalEntries as bs
  | _, _ => false

end

/-- Whether some item equals the value. -/
def isAmong (v : Value) (items : List Value) : Bool :=
  items.any (·.equal v)

/-- An integer of the signed 64-bit range stays one; any other number becomes the decimal that its
text denotes, or a binary64 number if no decimal can hold it. -/
def ofNumber (n : Json.Number) : Value :=
  match n with
  | .integer i _ =>
    if -2 ^ 63 ≤ i ∧ i < 2 ^ 63 then .int (Int64.ofInt i)
    else match Decimal.ofText? n.text with
      | some d => .decimal d
      | none => .float (Binary64.ofInt i)
  | .real x =>
    match Decimal.ofText? n.text with
    | some d => .decimal d
    | none => .float (.finite x)

mutual

def ofJson : Json → Value
  | .null => .null
  | .bool b => .bool b
  | .number n => ofNumber n
  | .string s => .text s
  | .array items => .list (itemsOfJson items)
  | .object members => .map (entriesOfJson [] members)

def itemsOfJson : List Json → List Value
  | [] => []
  | v :: rest => ofJson v :: itemsOfJson rest

/-- Puts the members in the order of their keys, among the entries that are there already. -/
def entriesOfJson (entries : List (String × Value)) : List (String × Json) → List (String × Value)
  | [] => entries
  | (key, v) :: rest => entriesOfJson (Entries.insert key (ofJson v) entries) rest

end

/-- A binary64 number as JSON, which has no number for an infinity or not a number. -/
def jsonOfBinary64? : Binary64 → Option Json
  | .finite x => some (.number (.real x))
  | _ => none

def jsonOfInt64 (n : Int64) : Json :=
  .number (.integer n.toInt (by
    have h₁ := n.le_toInt
    have h₂ := n.toInt_lt
    unfold Json.minInteger Json.maxInteger
    omega))

mutual

/-- Temporal values become texts, files objects that describe them. -/
def toJson : Value → Json
  | .null => .null
  | .bool b => .bool b
  | .int n => jsonOfInt64 n
  | .decimal d => (jsonOfBinary64? d.toBinary64).getD (.string d.text)
  | .float x => (jsonOfBinary64? x).getD .null
  | .text s => .string s
  | .list items => .array (itemsToJson items)
  | .map entries => .object (entriesToJson entries)
  | .date d => .string d.text
  | .moment m => .string m.text
  | .time t => .string t.text
  | .file f => f.toJson

def itemsToJson : List Value → List Json
  | [] => []
  | v :: rest => v.toJson :: itemsToJson rest

def entriesToJson : List (String × Value) → List (String × Json)
  | [] => []
  | (key, v) :: rest => (key, v.toJson) :: entriesToJson rest

end

/-- The numeric reading of a value: numbers and texts that are numerals have one. -/
def reading? : Value → Option Reading
  | .int n => some (.exact (Decimal.ofInt64 n))
  | .decimal d => some (.exact d)
  | .float x => some (.approximate x)
  | .text s => Reading.ofText? s
  | _ => none

def isNumeric (v : Value) : Bool :=
  v.reading?.isSome

/-- An ordering test between two values; false if one of them is no number. -/
def compares (test : OrderTest) (l r : Value) : Bool :=
  match l.reading?, r.reading? with
  | some x, some y => (x.compare? y).any test.holds
  | _, _ => false

end Value

end Questionnaire
