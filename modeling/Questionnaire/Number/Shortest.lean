import Questionnaire.Number.Binary64
import Questionnaire.Number.Digits

namespace Questionnaire.Number

/-- The positive decimal `coefficient * 10 ^ power`. -/
structure ShortDecimal where
  coefficient : Nat
  power : Int
  deriving DecidableEq, Repr

namespace Binary64.Magnitude

/-- Half the distance to the next smaller magnitude, in half units. -/
def below (m : Magnitude) : Nat :=
  let k := spacing m.units
  if 0 < k ∧ m.units = 2 ^ (52 + k) then 2 ^ (k - 1) else 2 ^ k

def lowerEnd (m : Magnitude) : Nat := 2 * m.units - m.below

def upperEnd (m : Magnitude) : Nat := 2 * m.units + 2 ^ spacing m.units

/-- The ends of the interval belong to it if the significand is even: ties go to the even one. -/
def endsIncluded (m : Magnitude) : Bool :=
  m.units / 2 ^ spacing m.units % 2 == 0

/-- Whether `n / d`, in half units, rounds to the magnitude. -/
def covers (m : Magnitude) (n d : Nat) : Bool :=
  if m.endsIncluded then m.lowerEnd * d ≤ n && n ≤ m.upperEnd * d
  else m.lowerEnd * d < n && n < m.upperEnd * d

/-- The multiple of `10 ^ power` that lies nearest to the magnitude, of those that read back. -/
def multiple? (m : Magnitude) (power : Int) : Option ShortDecimal :=
  -- one step of the grid, in half units, is `n / d`
  let n := 2 * one * 10 ^ power.toNat
  let d := 10 ^ (-power).toNat
  let value := 2 * m.units * d
  let floor := value / n
  let rest := value % n
  let low := 0 < floor && m.covers (floor * n) d
  let high := m.covers ((floor + 1) * n) d
  let pick := fun c => some ⟨c, power⟩
  match low, high with
  | false, false => none
  | true, false => pick floor
  | false, true => pick (floor + 1)
  | true, true => pick (if 2 * rest < n ∨ (2 * rest = n ∧ floor % 2 = 0) then floor else floor + 1)

/-- The shortest decimal that reads back, unless the magnitude is zero. Of the powers of ten, from
large to small, the first counts that has a multiple in the interval of the magnitude. -/
def shortest? (m : Magnitude) : Option ShortDecimal :=
  -- no power of ten above this one is as large as the magnitude
  let top := ((m.units.log2 : Int) - 1073) * 30103 / 100000 + 1
  if m.units = 0 then none
  else (List.range 24).findSome? fun (i : Nat) => m.multiple? (top - i)

end Binary64.Magnitude

/-- The choices of a format for numbers: which exponents of the first digit are written without a
power of ten, and how the power is marked. -/
structure RealStyle where
  lowestPlain : Int
  highestPlain : Int
  mark : Char
  plusSign : Bool

namespace RealStyle

/-- Digits with a point somewhere before, inside or after them. -/
def plain (digits : List Char) (power : Int) : List Char :=
  if 0 ≤ power then digits ++ List.replicate power.toNat '0' ++ ['.', '0']
  else
    let places := (-power).toNat
    let padded := padLeft (places + 1) digits
    padded.take (padded.length - places) ++ '.' :: padded.drop (padded.length - places)

/-- One digit, a point if more digits follow, and the power of ten. -/
def scientific (style : RealStyle) (digits : List Char) (exponent : Int) : List Char :=
  let fraction := digits.drop 1
  digits.take 1 ++ (if fraction.isEmpty then [] else '.' :: fraction) ++
    style.mark :: (if 0 ≤ exponent && style.plusSign then ['+'] else []) ++
    (integerText exponent).toList

def render (style : RealStyle) (x : ShortDecimal) : List Char :=
  let digits := digitsOfNat x.coefficient
  let exponent := (digits.length : Int) - 1 + x.power
  if style.lowestPlain ≤ exponent ∧ exponent ≤ style.highestPlain then plain digits x.power
  else style.scientific digits exponent

end RealStyle

/-- The text of a finite number in a style; zero keeps its sign. -/
def Finite64.text (style : RealStyle) (x : Finite64) : String :=
  let body := match x.magnitude.shortest? with
    | some d => style.render d
    | none => ['0', '.', '0']
  String.ofList (if x.negative then '-' :: body else body)

end Questionnaire.Number
