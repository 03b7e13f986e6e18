namespace Questionnaire.Text

/-- The Unicode property White_Space, as ranges of code points. -/
def blankRanges : List (Nat × Nat) :=
  [(0x9, 0xD), (0x20, 0x20), (0x85, 0x85), (0xA0, 0xA0), (0x1680, 0x1680), (0x2000, 0x200A),
   (0x2028, 0x2029), (0x202F, 0x202F), (0x205F, 0x205F), (0x3000, 0x3000)]

def isBlank (c : Char) : Bool :=
  blankRanges.any fun (first, last) => first ≤ c.toNat && c.toNat ≤ last

/-- Space, tab, line feed, carriage return, vertical tab and form feed. -/
def isAsciiBlank (c : Char) : Bool :=
  c = ' ' || (0x9 ≤ c.toNat && c.toNat ≤ 0xD)

/-- Removes the longest run of characters of a class from both ends. -/
def strip (p : Char → Bool) (cs : List Char) : List Char :=
  ((cs.dropWhile p).reverse.dropWhile p).reverse

/-- Text without its surrounding blanks. -/
def trim (s : String) : String :=
  String.ofList (strip isBlank s.toList)

/-- Whether some character is not blank. -/
def hasInk (s : String) : Bool :=
  s.toList.any fun c => !isBlank c

end Questionnaire.Text
