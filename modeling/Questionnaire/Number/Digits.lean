namespace Questionnaire.Number

def isDigit (c : Char) : Bool :=
  '0' ≤ c && c ≤ '9'

def digitValue (c : Char) : Nat :=
  c.toNat - '0'.toNat

/-- The value of a hexadecimal digit; letters of either case. -/
def hexValue? (c : Char) : Option Nat :=
  if isDigit c then some (digitValue c)
  else if 'a' ≤ c && c ≤ 'f' then some (c.toNat - 'a'.toNat + 10)
  else if 'A' ≤ c && c ≤ 'F' then some (c.toNat - 'A'.toNat + 10)
  else none

/-- The natural written by a row of digits, read from the left. -/
def natOfDigits (ds : List Char) : Nat :=
  ds.foldl (fun n c => 10 * n + digitValue c) 0

@[simp] theorem natOfDigits_nil : natOfDigits [] = 0 := rfl

theorem natOfDigits_concat (ds : List Char) (c : Char) :
    natOfDigits (ds ++ [c]) = 10 * natOfDigits ds + digitValue c := by
  simp [natOfDigits]

/-- The digits of a natural, without leading zeros. -/
def digitsOfNat (n : Nat) : List Char :=
  Nat.toDigits 10 n

/-- Digits filled up with zeros on the left. -/
def padLeft (width : Nat) (ds : List Char) : List Char :=
  List.replicate (width - ds.length) '0' ++ ds

/-- The last digits of a natural, exactly `width` of them if it has no more. -/
def paddedDigits (width n : Nat) : List Char :=
  padLeft width (digitsOfNat n)

theorem length_padLeft (width : Nat) (ds : List Char) :
    (padLeft width ds).length = max width ds.length := by
  simp [padLeft]
  omega

/-- The characters of an integer: a minus sign if it is negative, then its digits. -/
def integerText (n : Int) : String :=
  String.ofList ((if n < 0 then ['-'] else []) ++ digitsOfNat n.natAbs)

end Questionnaire.Number
