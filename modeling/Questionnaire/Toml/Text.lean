import Questionnaire.Number.Digits

namespace Questionnaire.Toml

/-- Characters that may stand in strings and comments: the tab, and all that are no controls. -/
def isTextChar (c : Char) : Bool :=
  c == '\t' || (0x20 ≤ c.toNat && c.toNat != 0x7F)

/-- A text from a reader with one more character in front. -/
def prepend (c : Char) (r : Option (List Char × List Char)) : Option (List Char × List Char) :=
  r.map fun (text, rest) => (c :: text, rest)

def escapeChar? : Char → Option Char
  | 'b' => some '\x08'
  | 't' => some '\t'
  | 'n' => some '\n'
  | 'f' => some '\x0c'
  | 'r' => some '\r'
  | '"' => some '"'
  | '\\' => some '\\'
  | _ => none

/-- The character whose code the digits write. -/
def hexChar? (digits : List Char) : Option Char := do
  let code := (← digits.mapM Number.hexValue?).foldl (fun n d => 16 * n + d) 0
  if code.isValidChar then return Char.ofNat code else failure

/-- A string between quotes on one line. -/
def basicString? : List Char → Option (List Char × List Char)
  | [] => none
  | '"' :: rest => some ([], rest)
  | '\\' :: 'u' :: a :: b :: c :: d :: rest => do
    prepend (← hexChar? [a, b, c, d]) (basicString? rest)
  | '\\' :: 'U' :: a :: b :: c :: d :: e :: f :: g :: h :: rest => do
    prepend (← hexChar? [a, b, c, d, e, f, g, h]) (basicString? rest)
  | '\\' :: c :: rest => do prepend (← escapeChar? c) (basicString? rest)
  | c :: rest => if c != '\\' && isTextChar c then prepend c (basicString? rest) else none

/-- Where a reader of lines is. -/
inductive LineMode where
  | text
  /-- After a backslash at the end of a line: only blanks may come. -/
  | lineEnd
  /-- On the lines after it: blanks and line breaks are dropped. -/
  | margin

/-- A string over several lines, in which backslashes escape. -/
def basicLines? : LineMode → List Char → Option (List Char × List Char)
  | _, [] => none
  | .lineEnd, '\n' :: rest => basicLines? .margin rest
  | .lineEnd, '\r' :: '\n' :: rest => basicLines? .margin rest
  | .lineEnd, c :: rest => if c == ' ' || c == '\t' then basicLines? .lineEnd rest else none
  | .margin, ' ' :: rest => basicLines? .margin rest
  | .margin, '\t' :: rest => basicLines? .margin rest
  | .margin, '\n' :: rest => basicLines? .margin rest
  | .margin, '\r' :: '\n' :: rest => basicLines? .margin rest
  | _, '"' :: '"' :: '"' :: '"' :: '"' :: rest => some (['"', '"'], rest)
  | _, '"' :: '"' :: '"' :: '"' :: rest => some (['"'], rest)
  | _, '"' :: '"' :: '"' :: rest => some ([], rest)
  | _, '\r' :: '\n' :: rest => prepend '\n' (basicLines? .text rest)
  | _, '\n' :: rest => prepend '\n' (basicLines? .text rest)
  | _, '\\' :: '\n' :: rest => basicLines? .margin rest
  | _, '\\' :: '\r' :: '\n' :: rest => basicLines? .margin rest
  | _, '\\' :: ' ' :: rest => basicLines? .lineEnd rest
  | _, '\\' :: '\t' :: rest => basicLines? .lineEnd rest
  | _, '\\' :: 'u' :: a :: b :: c :: d :: rest => do
    prepend (← hexChar? [a, b, c, d]) (basicLines? .text rest)
  | _, '\\' :: 'U' :: a :: b :: c :: d :: e :: f :: g :: h :: rest => do
    prepend (← hexChar? [a, b, c, d, e, f, g, h]) (basicLines? .text rest)
  | _, '\\' :: c :: rest => do prepend (← escapeChar? c) (basicLines? .text rest)
  | _, c :: rest => if c != '\\' && isTextChar c then prepend c (basicLines? .text rest) else none

/-- A string between apostrophes on one line, as it stands. -/
def literalString? : List Char → Option (List Char × List Char)
  | [] => none
  | '\'' :: rest => some ([], rest)
  | c :: rest => if isTextChar c then prepend c (literalString? rest) else none

/-- A string between apostrophes over several lines. -/
def literalLines? : List Char → Option (List Char × List Char)
  | [] => none
  | '\'' :: '\'' :: '\'' :: '\'' :: '\'' :: rest => some (['\'', '\''], rest)
  | '\'' :: '\'' :: '\'' :: '\'' :: rest => some (['\''], rest)
  | '\'' :: '\'' :: '\'' :: rest => some ([], rest)
  | '\r' :: '\n' :: rest => prepend '\n' (literalLines? rest)
  | '\n' :: rest => prepend '\n' (literalLines? rest)
  | c :: rest => if isTextChar c then prepend c (literalLines? rest) else none

/-- Drops the line break right after the quotes that open several lines. -/
def dropLineBreak : List Char → List Char
  | '\n' :: rest => rest
  | '\r' :: '\n' :: rest => rest
  | rest => rest

/-- A string of any form, from its opening quotes on. -/
def readString? : List Char → Option (String × List Char)
  | '"' :: '"' :: '"' :: rest =>
    (basicLines? .text (dropLineBreak rest)).map fun (text, rest) => (String.ofList text, rest)
  | '\'' :: '\'' :: '\'' :: rest =>
    (literalLines? (dropLineBreak rest)).map fun (text, rest) => (String.ofList text, rest)
  | '"' :: rest => (basicString? rest).map fun (text, rest) => (String.ofList text, rest)
  | '\'' :: rest => (literalString? rest).map fun (text, rest) => (String.ofList text, rest)
  | _ => none

end Questionnaire.Toml
