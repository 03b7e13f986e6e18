-- Powers of naturals and integers are the core ones, also beside an algebraic library's own power.
attribute [instance (20000)] instPowNat
attribute [default_instance 20000] instPowNat

namespace Questionnaire.Number

/-- The quotient of two naturals, rounded to the nearest natural, a tie to the even one. -/
def divNearestEven (n d : Nat) : Nat :=
  let q := n / d
  let r := n % d
  if 2 * r < d ∨ (2 * r = d ∧ q % 2 = 0) then q else q + 1

namespace Binary64

/-- Magnitudes are counted in units of `2 ^ -unitExponent`. -/
def unitExponent : Nat := 1074

/-- Finite magnitudes lie below `2 ^ topExponent`. -/
def topExponent : Nat := 1024

/-- Units in the number one. -/
def one : Nat := 2 ^ unitExponent

/-- The exponent of the spacing of magnitudes near a count of units: 53 significant bits. -/
def spacing (units : Nat) : Nat := units.log2 - 52

/-- The representable count of units nearest to `n / d`, with no upper limit. -/
def snap (n d : Nat) : Nat :=
  let k := spacing (n / d)
  divNearestEven n (d * 2 ^ k) * 2 ^ k

/-- Counts from here on stand for no finite number. -/
def limit : Nat := one * 2 ^ topExponent

/-- A finite magnitude, as a count of the smallest positive number 2^-1074. So comparing numbers is
comparing counts, and every operation is an exact one on naturals followed by `snap`, the rounding
to the nearest magnitude. -/
structure Magnitude where
  units : Nat
  onGrid : 2 ^ spacing units ∣ units
  bounded : units < limit
  deriving DecidableEq

theorem one_pos : 0 < one := Nat.two_pow_pos unitExponent

theorem limit_pos : 0 < limit := Nat.mul_pos one_pos (Nat.two_pow_pos topExponent)

def Magnitude.zero : Magnitude := ⟨0, Nat.dvd_zero _, limit_pos⟩

instance : Inhabited Magnitude := ⟨.zero⟩

/-- Whether a count is the count of a finite magnitude. -/
def Magnitude.ofUnits? (units : Nat) : Option Magnitude :=
  if h : 2 ^ spacing units ∣ units ∧ units < limit then some ⟨units, h.1, h.2⟩ else none

end Binary64

/-- A finite number: zero has a sign too. -/
structure Finite64 where
  negative : Bool
  magnitude : Binary64.Magnitude
  deriving DecidableEq, Inhabited

inductive Binary64 where
  | nan
  | infinite (negative : Bool)
  | finite (value : Finite64)
  deriving DecidableEq, Inhabited

namespace Finite64

/-- The count of units with its sign. -/
def signedUnits (x : Finite64) : Int :=
  if x.negative then -(x.magnitude.units : Int) else x.magnitude.units

/-- The integer part, cut toward zero. -/
def truncate (x : Finite64) : Int :=
  let n := x.magnitude.units / Binary64.one
  if x.negative then -(n : Int) else n

end Finite64

namespace Binary64

/-- The number with the given sign and count of units; beyond the finite range it is infinite. -/
def ofUnits (negative : Bool) (units : Nat) : Binary64 :=
  match Magnitude.ofUnits? units with
  | some m => .finite ⟨negative, m⟩
  | none => .infinite negative

/-- The number nearest to `n / d`. -/
def ofRatio (negative : Bool) (n d : Nat) : Binary64 :=
  ofUnits negative (snap (n * one) d)

def ofInt (n : Int) : Binary64 :=
  ofRatio (n < 0) n.natAbs 1

def isFinite : Binary64 → Bool
  | .finite _ => true
  | _ => false

/-- The order of the numbers; `none` if one of them is not a number. The two zeros are equal. -/
def compare? : Binary64 → Binary64 → Option Ordering
  | .nan, _ | _, .nan => none
  | .infinite a, .infinite b => some (if a = b then .eq else if a then .lt else .gt)
  | .infinite a, .finite _ => some (if a then .lt else .gt)
  | .finite _, .infinite b => some (if b then .gt else .lt)
  | .finite x, .finite y => some (compare x.signedUnits y.signedUnits)

/-- Numerical equality: not a number differs from itself. -/
def equal (x y : Binary64) : Bool :=
  x.compare? y == some .eq

/-- The integer part if it fits a signed 64-bit word. -/
def toInt64? : Binary64 → Option Int64
  | .finite x =>
    if -2 ^ 63 ≤ x.truncate ∧ x.truncate < 2 ^ 63 then some (Int64.ofInt x.truncate) else none
  | _ => none

def addUnits (a b : Nat) : Nat := snap (a + b) 1

def mulUnits (a b : Nat) : Nat := snap (a * b) one

def divUnits (a b : Nat) : Nat := snap (a * one) b

def unitsOfNat (n : Nat) : Nat := snap (n * one) 1

/-- The nearest integer, a half away from zero. -/
def roundUnits (a : Nat) : Nat := (a + one / 2) / one

end Binary64

end Questionnaire.Number
