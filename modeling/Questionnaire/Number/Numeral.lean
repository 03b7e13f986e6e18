import Questionnaire.Number.Digits
import Questionnaire.Number.Binary64

namespace Questionnaire.Number

/-- A decimal number as it is written. -/
structure Numeral where
  negative : Bool
  whole : List Char
  /-- The digits after the point, if there is a point. -/
  fraction : Option (List Char)
  exponent : Option Int
  deriving DecidableEq, Repr

namespace Numeral

/-- Splits off a sign; no sign counts as plus. -/
def takeSign : List Char → Bool × List Char
  | '-' :: rest => (true, rest)
  | '+' :: rest => (false, rest)
  | rest => (false, rest)

/-- The point and the digits after it, and what follows. -/
def takeFraction : List Char → Option (List Char) × List Char
  | '.' :: rest => (some (rest.takeWhile isDigit), rest.dropWhile isDigit)
  | rest => (none, rest)

/-- The exponent that makes up all of the text, of which the mark has been read. -/
def exponentOf? (cs : List Char) : Option Int :=
  let (negative, digits) := takeSign cs
  if digits.isEmpty || !digits.all isDigit then none
  else some (if negative then -(natOfDigits digits : Int) else natOfDigits digits)

/-- What stands after the digits: nothing, or an exponent. -/
def takeExponent? : List Char → Option (Option Int)
  | [] => some none
  | mark :: rest => if mark = 'e' ∨ mark = 'E' then (exponentOf? rest).map some else none

/-- Reads [+-]? ( D+ ( '.' D* )? | '.' D+ ) ( [eE] [+-]? D+ )? and nothing else. -/
def ofChars? (cs : List Char) : Option Numeral :=
  let (negative, body) := takeSign cs
  let whole := body.takeWhile isDigit
  let (fraction, rest) := takeFraction (body.dropWhile isDigit)
  if whole.isEmpty && (fraction.getD []).isEmpty then none
  else (takeExponent? rest).map fun exponent => ⟨negative, whole, fraction, exponent⟩

/-- The digits of the numeral, the point left out. -/
def digits (n : Numeral) : List Char :=
  n.whole ++ n.fraction.getD []

/-- The digits read as one natural. -/
def coefficient (n : Numeral) : Nat :=
  natOfDigits n.digits

/-- The number of digits from the first one that is not zero. -/
def significantDigits (n : Numeral) : Nat :=
  (n.digits.dropWhile (· = '0')).length

def places (n : Numeral) : Nat :=
  (n.fraction.getD []).length

/-- The numeral stands for `± coefficient * 10 ^ power`. -/
def power (n : Numeral) : Int :=
  n.exponent.getD 0 - n.places

/-- The binary64 number nearest to the numeral; a magnitude out of range is infinite or zero. -/
def toBinary64 (n : Numeral) : Binary64 :=
  let c := n.coefficient
  -- the numeral lies below `10 ^ top` and, unless it is zero, not below `10 ^ (top - 1)`
  let top : Int := n.significantDigits + n.power
  if c = 0 ∨ top < -323 then .ofUnits n.negative 0
  else if 310 < top then .infinite n.negative
  else .ofRatio n.negative (c * 10 ^ n.power.toNat) (10 ^ (-n.power).toNat)

end Numeral

end Questionnaire.Number
