import Questionnaire.Json.Basic
import Questionnaire.Number.Shortest

namespace Questionnaire.Json

/-- Exponents -5 to 15 are written in full; the power of ten has a sign and no padding. -/
def realStyle : Number.RealStyle where
  lowestPlain := -5
  highestPlain := 15
  mark := 'e'
  plusSign := true

def Number.text : Number → String
  | .integer n _ => Questionnaire.Number.integerText n
  | .real x => x.text realStyle

def hexDigit (n : Nat) : Char :=
  (Nat.toDigits 16 n).headD '0'

/-- A character inside quotes. Control characters, the quote and the backslash are escaped. -/
def escape (c : Char) : List Char :=
  match c with
  | '"' => ['\\', '"']
  | '\\' => ['\\', '\\']
  | '\n' => ['\\', 'n']
  | '\r' => ['\\', 'r']
  | '\t' => ['\\', 't']
  | '\x08' => ['\\', 'b']
  | '\x0c' => ['\\', 'f']
  | c =>
    if c.toNat < 0x20 then
      ['\\', 'u', '0', '0', hexDigit (c.toNat / 16), hexDigit (c.toNat % 16)]
    else [c]

def quote (s : String) : String :=
  String.ofList ('"' :: s.toList.flatMap escape ++ ['"'])

mutual

/-- The document on one line. -/
def compact : Json → String
  | .null => "null"
  | .bool b => if b then "true" else "false"
  | .number n => n.text
  | .string s => quote s
  | .array items => "[" ++ ",".intercalate (compactItems items) ++ "]"
  | .object members => "\x7b" ++ ",".intercalate (compactMembers members) ++ "\x7d"

def compactItems : List Json → List String
  | [] => []
  | v :: rest => v.compact :: compactItems rest

def compactMembers : List (String × Json) → List String
  | [] => []
  | (key, v) :: rest => (quote key ++ ":" ++ v.compact) :: compactMembers rest

end

/-- A container over several lines, its parts one level deeper than its brackets. -/
def block (level : Nat) (opening closing : String) (parts : List String) : String :=
  let margin := fun n => "\n" ++ String.ofList (List.replicate (2 * n) ' ')
  match parts with
  | [] => opening ++ closing
  | parts => opening ++ margin (level + 1) ++ ("," ++ margin (level + 1)).intercalate parts ++
      margin level ++ closing

mutual

/-- The document over several lines, at a level of indentation. -/
def prettyAt (level : Nat) : Json → String
  | .null => "null"
  | .bool b => if b then "true" else "false"
  | .number n => n.text
  | .string s => quote s
  | .array items => block level "[" "]" (prettyItems (level + 1) items)
  | .object members => block level "\x7b" "\x7d" (prettyMembers (level + 1) members)

def prettyItems (level : Nat) : List Json → List String
  | [] => []
  | v :: rest => v.prettyAt level :: prettyItems level rest

def prettyMembers (level : Nat) : List (String × Json) → List String
  | [] => []
  | (key, v) :: rest => (quote key ++ ": " ++ v.prettyAt level) :: prettyMembers level rest

end

def pretty (v : Json) : String :=
  v.prettyAt 0

end Questionnaire.Json
