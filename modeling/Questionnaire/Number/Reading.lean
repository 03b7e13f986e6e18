import Questionnaire.Text.Blank
import Questionnaire.Number.Decimal

namespace Questionnaire.Number

/-- What a numeral reads as: an exact decimal, cut at 28 places, if its exponent and digits are in
range, and the nearest binary64 number otherwise. -/
inductive Reading where
  | exact (value : Decimal)
  | approximate (value : Binary64)
  deriving DecidableEq, Inhabited

namespace Numeral

/-- Exponents beyond this are not read exactly. -/
def maxExactExponent : Nat := 64

/-- Digit strings that denote this number or more are not read exactly. -/
def coefficientLimit : Nat := 2 ^ 127

/-- The exact decimal: places after the 28th are cut off, and zeros fill up to the point. -/
def decimal? (n : Numeral) : Option Decimal :=
  if maxExactExponent < (n.exponent.getD 0).natAbs ∨ coefficientLimit ≤ n.coefficient then none
  else
    let scale := min (-n.power).toNat Decimal.maxScale
    let c := n.coefficient * 10 ^ n.power.toNat / 10 ^ ((-n.power).toNat - Decimal.maxScale)
    Decimal.of? (if n.negative then -(c : Int) else c) scale

/-- The reading of a numeral; a magnitude that rounds to infinity has none. -/
def reading? (n : Numeral) : Option Reading :=
  match n.decimal? with
  | some d => some (.exact d)
  | none => if n.toBinary64.isFinite then some (.approximate n.toBinary64) else none

end Numeral

namespace Reading

/-- The reading of a text: a numeral with ASCII blanks around it. -/
def ofText? (s : String) : Option Reading :=
  (Numeral.ofChars? (Text.strip Text.isAsciiBlank s.toList)).bind Numeral.reading?

def toBinary64 : Reading → Binary64
  | .exact d => d.toBinary64
  | .approximate x => x

def toInt64? : Reading → Option Int64
  | .exact d => d.toInt64?
  | .approximate x => x.toInt64?

/-- Exact readings are ordered by value, all others as binary64 numbers. -/
def compare? : Reading → Reading → Option Ordering
  | .exact x, .exact y => some (x.compare y)
  | x, y => x.toBinary64.compare? y.toBinary64

end Reading

/-- The four ordering tests. -/
inductive OrderTest where
  | greater
  | less
  | greaterOrEqual
  | lessOrEqual
  deriving DecidableEq, Repr

def OrderTest.holds : OrderTest → Ordering → Bool
  | .greater, o => o == .gt
  | .less, o => o == .lt
  | .greaterOrEqual, o => o != .lt
  | .lessOrEqual, o => o != .gt

end Questionnaire.Number
