import Questionnaire.Json.Basic

namespace Questionnaire.Json

open Questionnaire.Number (Binary64 Numeral digitValue)

/-- Goes on with digits as long as the number that they write fits a word of 64 bits. The digits
from the first one that does not fit are left over. -/
def takeDigits : Nat → List Char → Nat × List Char
  | c, [] => (c, [])
  | c, d :: rest =>
    if 10 * c + digitValue d < 2 ^ 64 then takeDigits (10 * c + digitValue d) rest
    else (c, d :: rest)

/-- The number that the digits of a numeral write, and the power of ten that goes with it. A digit
that is left over before the point still counts as a place, one behind it does not. -/
def scientific (n : Numeral) : Nat × Int :=
  let fraction := n.fraction.getD []
  let (c, places) := takeDigits 0 n.whole
  let (c, cut) := takeDigits c fraction
  (c, places.length - (fraction.length - cut.length) + n.exponent.getD 0)

/-- No larger power of ten is a finite number. -/
def topPower : Nat := 308

/-- Ten to a power, as a count of units. -/
def tenUnits (e : Nat) : Nat :=
  Binary64.unitsOfNat (10 ^ e)

/-- Divides a count of units by `10 ^ e`, a large power in several steps. -/
def divideUnits (units e : Nat) : Nat :=
  if e ≤ topPower then Binary64.divUnits units (tenUnits e)
  else if units = 0 then 0
  else divideUnits (Binary64.divUnits units (tenUnits topPower)) (e - topPower)
termination_by e
decreasing_by
  unfold topPower at *
  omega

/-- The count of units that `c * 10 ^ power` comes to; a power that is too large has none, unless
there is nothing to multiply. -/
def scaledUnits? (c : Nat) (power : Int) : Option Nat :=
  let units := Binary64.unitsOfNat c
  if power < 0 then some (divideUnits units power.natAbs)
  else if power ≤ topPower then some (Binary64.mulUnits units (tenUnits power.toNat))
  else if units = 0 then some 0
  else none

/-- The number that a literal writes: an integer if it has neither point nor exponent and is in
range, else a binary64 number, which must be finite. A minus zero is a binary64 number. The digits
that count and their power of ten are rounded to binary64, each by itself, and so is what they come
to; the result is close to what the literal denotes but not always the nearest binary64 number. -/
def Number.ofLiteral? (cs : List Char) : Option Number := do
  let n ← Numeral.ofChars? cs
  -- no plus sign, no missing digits on either side of the point, no leading zeros
  if cs.head? = some '+' ∨ n.whole = [] ∨ n.fraction = some [] ∨
      (n.whole.head? = some '0' ∧ n.whole.length ≠ 1) then failure
  let value : Int := if n.negative then -(n.coefficient : Int) else n.coefficient
  let isInteger := n.fraction.isNone && n.exponent.isNone && !(n.negative && n.coefficient == 0)
  match if isInteger then integer? value else none with
  | some i => return i
  | none =>
    let (c, power) := scientific n
    match Binary64.ofUnits n.negative (← scaledUnits? c power) with
    | .finite x => return .real x
    | _ => failure

end Questionnaire.Json
