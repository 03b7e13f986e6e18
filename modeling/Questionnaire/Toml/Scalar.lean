import Questionnaire.Calendar.Basic
import Questionnaire.Number.Numeral
import Questionnaire.Toml.Basic
import Questionnaire.Toml.Text

namespace Questionnaire.Toml

open Questionnaire.Number (Numeral Binary64 isDigit hexValue? natOfDigits)

/-- Removes the underscores between digits; any other underscore is refused. -/
def ungroup? (isDigit : Char → Bool) : List Char → Option (List Char)
  | [] => some []
  | '_' :: _ => none
  | c :: '_' :: d :: rest =>
    if isDigit c && isDigit d then (ungroup? isDigit (d :: rest)).map (c :: ·) else none
  | c :: rest => (ungroup? isDigit rest).map (c :: ·)
termination_by cs => cs.length

def integerOf? (n : Int) : Option Toml :=
  if -2 ^ 63 ≤ n ∧ n < 2 ^ 63 then some (.integer (Int64.ofInt n)) else none

/-- An integer in a base other than ten. -/
def basedInteger? (base : Nat) (cs : List Char) : Option Toml := do
  let value? := fun c => (hexValue? c).filter (· < base)
  let digits ← (← ungroup? (fun c => (value? c).isSome) cs).mapM value?
  if digits.isEmpty then failure
  integerOf? (digits.foldl (fun n d => base * n + d) 0 : Nat)

/-- A decimal integer, or a float if it has a point or an exponent. -/
def number? (cs : List Char) : Option Toml := do
  let n ← Numeral.ofChars? (← ungroup? isDigit cs)
  -- no missing digits on either side of the point, no leading zeros
  if n.whole = [] ∨ n.fraction = some [] ∨ (n.whole.head? = some '0' ∧ n.whole.length ≠ 1) then
    failure
  if n.fraction.isNone && n.exponent.isNone then
    integerOf? (if n.negative then -(n.coefficient : Int) else n.coefficient)
  else if n.toBinary64 = .infinite false then failure
  else return .float n.toBinary64

def allDigits (cs : List Char) : Bool :=
  !cs.isEmpty && cs.all isDigit

/-- A calendar date, such as `1979-05-27`. -/
def isDate : List Char → Bool
  | [y₁, y₂, y₃, y₄, '-', m₁, m₂, '-', d₁, d₂] =>
    allDigits [y₁, y₂, y₃, y₄, m₁, m₂, d₁, d₂] &&
      (Calendar.Date.of? (natOfDigits [y₁, y₂, y₃, y₄]) (natOfDigits [m₁, m₂])
        (natOfDigits [d₁, d₂])).isSome
  | _ => false

/-- A time of day, such as `07:32:00.5`; the second 60 is allowed. -/
def isTime : List Char → Bool
  | h₁ :: h₂ :: ':' :: m₁ :: m₂ :: ':' :: s₁ :: s₂ :: fraction =>
    allDigits [h₁, h₂, m₁, m₂, s₁, s₂] && natOfDigits [h₁, h₂] < 24 &&
      natOfDigits [m₁, m₂] < 60 && natOfDigits [s₁, s₂] ≤ 60 &&
      match fraction with
      | [] => true
      | '.' :: digits => allDigits digits
      | _ => false
  | _ => false

/-- The distance from UTC after a date and a time; none is local time. -/
def isOffset : List Char → Bool
  | [] | ['Z'] | ['z'] => true
  | [sign, h₁, h₂, ':', m₁, m₂] =>
    (sign == '+' || sign == '-') && allDigits [h₁, h₂, m₁, m₂] &&
      natOfDigits [h₁, h₂] < 24 && natOfDigits [m₁, m₂] < 60
  | _ => false

/-- A date, a time of day, or a date, a `T` or blank and a time of day. -/
def isDateTime (cs : List Char) : Bool :=
  isTime cs || (isDate (cs.take 10) &&
    match cs.drop 10 with
    | [] => true
    | mark :: clock =>
      let isOfTime := fun c => isDigit c || c == ':' || c == '.'
      (mark == 'T' || mark == 't' || mark == ' ') && isTime (clock.takeWhile isOfTime) &&
        isOffset (clock.dropWhile isOfTime))

/-- The value that a word writes. -/
def scalar? (word : List Char) : Option Toml :=
  match String.ofList word with
  | "true" => some (.boolean true)
  | "false" => some (.boolean false)
  | "inf" | "+inf" => some (.float (.infinite false))
  | "-inf" => some (.float (.infinite true))
  | "nan" | "+nan" | "-nan" => some (.float .nan)
  | written =>
    match word with
    | '0' :: 'x' :: digits => basedInteger? 16 digits
    | '0' :: 'o' :: digits => basedInteger? 8 digits
    | '0' :: 'b' :: digits => basedInteger? 2 digits
    | _ => if isDateTime word then some (.dateTime written) else number? word

/-- Characters of words. -/
def isWordChar (c : Char) : Bool :=
  isDigit c || ('a' ≤ c && c ≤ 'z') || ('A' ≤ c && c ≤ 'Z') || c == '_' || c == '+' || c == '-' ||
    c == '.' || c == ':'

/-- Splits off a word. A blank between a date and a time of day is part of the word. -/
def takeWord (cs : List Char) : List Char × List Char :=
  let word := cs.takeWhile isWordChar
  match isDate word, cs.dropWhile isWordChar with
  | true, ' ' :: h₁ :: h₂ :: ':' :: rest =>
    let clock := h₁ :: h₂ :: ':' :: rest
    (word ++ ' ' :: clock.takeWhile isWordChar, clock.dropWhile isWordChar)
  | _, rest => (word, rest)

end Questionnaire.Toml
