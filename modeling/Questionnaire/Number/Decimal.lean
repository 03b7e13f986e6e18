import Questionnaire.Number.Numeral

namespace Questionnaire.Number

/-- Magnitudes of coefficients lie below this bound. -/
def Decimal.coefficientBound : Nat := 2 ^ 96

def Decimal.maxScale : Nat := 28

/-- The number `coefficient / 10 ^ scale`. -/
structure Decimal where
  coefficient : Int
  scale : Nat
  coefficient_lt : coefficient.natAbs < Decimal.coefficientBound
  scale_le : scale ≤ Decimal.maxScale
  deriving DecidableEq

namespace Decimal

instance : Inhabited Decimal := ⟨⟨0, 0, by decide, by decide⟩⟩

def of? (coefficient : Int) (scale : Nat) : Option Decimal :=
  if h : coefficient.natAbs < coefficientBound ∧ scale ≤ maxScale then
    some ⟨coefficient, scale, h.1, h.2⟩
  else none

theorem of?_eq_some_iff {c : Int} {s : Nat} {d : Decimal} :
    of? c s = some d ↔ d.coefficient = c ∧ d.scale = s := by
  unfold of?
  split
  · rename_i h
    constructor
    · rintro ⟨⟩
      exact ⟨rfl, rfl⟩
    · rintro ⟨rfl, rfl⟩
      rfl
  · rename_i h
    constructor
    · intro h'
      cases h'
    · rintro ⟨rfl, rfl⟩
      exact absurd ⟨d.coefficient_lt, d.scale_le⟩ h

/-- The decimal of a signed 64-bit integer. -/
def ofInt64 (n : Int64) : Decimal where
  coefficient := n.toInt
  scale := 0
  coefficient_lt := by
    have h₁ := n.le_toInt
    have h₂ := n.toInt_lt
    unfold coefficientBound
    omega
  scale_le := Nat.zero_le _

/-- The order by value. -/
def compare (x y : Decimal) : Ordering :=
  Ord.compare (x.coefficient * 10 ^ y.scale) (y.coefficient * 10 ^ x.scale)

def equal (x y : Decimal) : Bool :=
  x.compare y == .eq

/-- The integer part, cut toward zero. -/
def truncate (x : Decimal) : Int :=
  x.coefficient.tdiv (10 ^ x.scale)

/-- The integer part if it fits a signed 64-bit word. -/
def toInt64? (x : Decimal) : Option Int64 :=
  if -2 ^ 63 ≤ x.truncate ∧ x.truncate < 2 ^ 63 then some (Int64.ofInt x.truncate) else none

/-- All digits, with as many places as the scale says. -/
def text (x : Decimal) : String :=
  let digits := paddedDigits (x.scale + 1) x.coefficient.natAbs
  let whole := digits.take (digits.length - x.scale)
  let places := digits.drop (digits.length - x.scale)
  String.ofList ((if x.coefficient < 0 then ['-'] else []) ++ whole ++
    (if places.isEmpty then [] else '.' :: places))

/-- Ten to a power as the square-and-multiply product of rounded factors: `result * base ^ n`. -/
def powerUnits (result base n : Nat) : Nat :=
  if h : n = 0 then result
  else
    let result := if n % 2 = 1 then Binary64.mulUnits result base else result
    if n / 2 = 0 then result else powerUnits result (Binary64.mulUnits base base) (n / 2)
termination_by n
decreasing_by omega

/-- The approximation of `n / 10 ^ scale`, as a count of units. -/
def approximateUnits (n scale : Nat) : Nat :=
  let ten := 10 ^ scale
  let whole := Binary64.unitsOfNat (n / ten)
  let places := Binary64.divUnits (Binary64.unitsOfNat (n % ten)) (Binary64.unitsOfNat ten)
  if places = 0 then whole
  else
    let sum := Binary64.addUnits whole places
    let shift := powerUnits Binary64.one (Binary64.unitsOfNat 10) scale
    let rounded := Binary64.roundUnits (Binary64.mulUnits sum shift)
    Binary64.divUnits (Binary64.unitsOfNat rounded) shift

/-- The whole part and the places are rounded apart, added, and the sum is rounded to the scale once
more; the result is close to the decimal but not always the nearest binary64 number. -/
def toBinary64 (x : Decimal) : Binary64 :=
  .ofUnits (x.coefficient < 0) (approximateUnits x.coefficient.natAbs x.scale)

/-- Goes on with the places of a numeral; a coefficient that rounding pushes over the bound gives
up its last place. -/
def takePlaces? : Nat → Nat → List Char → Option (Nat × Nat)
  | c, scale, [] => some (c, scale)
  | c, scale, d :: rest =>
    if scale < maxScale ∧ 10 * c + digitValue d < coefficientBound then
      takePlaces? (10 * c + digitValue d) (scale + 1) rest
    else if digitValue d < 5 then some (c, scale)
    else if c + 1 < coefficientBound then some (c + 1, scale)
    else if scale = 0 then none
    else some ((c + 5) / 10, scale - 1)

/-- Removes places, rounding a half away from zero. -/
def dropPlaces (c count : Nat) : Nat :=
  (c + 10 ^ count / 2) / 10 ^ count

/-- Applies a negative exponent `-e`: the result has at most 28 places. -/
def shiftRight? (c scale e : Nat) : Option (Nat × Nat) :=
  if maxScale < e then none
  else if maxScale < scale + e then some (dropPlaces c (scale + e - maxScale), maxScale)
  else some (c, scale + e)

/-- Applies a positive exponent `e`. -/
def shiftLeft? (c scale e : Nat) : Option (Nat × Nat) :=
  if e ≤ scale then some (c, scale - e)
  else if maxScale < e then none
  else some (c * 10 ^ (e - scale), 0)

/-- The decimal that a numeral denotes, rounded to 28 places. The digits are taken one by one as
long as the coefficient and the scale allow; the first that does not fit rounds the last one taken, a
five up. -/
def ofNumeral? (n : Numeral) : Option Decimal := do
  let whole := natOfDigits n.whole
  if coefficientBound ≤ whole then failure
  let (c, scale) ← takePlaces? whole 0 (n.fraction.getD [])
  let (c, scale) ← match n.exponent with
    | none => some (c, scale)
    | some e => if e < 0 then shiftRight? c scale e.natAbs else shiftLeft? c scale e.natAbs
  of? (if n.negative then -(c : Int) else c) scale

def ofText? (s : String) : Option Decimal :=
  (Numeral.ofChars? s.toList).bind ofNumeral?

end Decimal

end Questionnaire.Number
