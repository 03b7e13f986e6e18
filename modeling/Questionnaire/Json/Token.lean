import Questionnaire.Json.Literal

namespace Questionnaire.Json

inductive Token where
  | openArray
  | closeArray
  | openObject
  | closeObject
  | comma
  | colon
  | scalar (value : Json)
  deriving Inhabited

namespace Token

/-- What the characters since the last token have begun. Characters are kept in reverse. -/
inductive Mode where
  | between
  | word (read : List Char)
  | number (read : List Char)
  | string (read : List Char)
  | escape (read : List Char)
  /-- Four hexadecimal digits, some of them read; before them a high surrogate may have come. -/
  | unicode (read : List Char) (high : Option Nat) (digits : Nat) (code : Nat)
  /-- A high surrogate has come: a backslash and `u` must follow. -/
  | lowSurrogate (read : List Char) (high : Nat) (backslash : Bool)

structure Scanner where
  mode : Mode
  /-- The tokens that are complete, the last one first. -/
  tokens : List Token

def isWordChar (c : Char) : Bool :=
  'a' ≤ c && c ≤ 'z'

def isNumberChar (c : Char) : Bool :=
  Questionnaire.Number.isDigit c || c == '+' || c == '-' || c == '.' || c == 'e' || c == 'E'

/-- Completes a word or a number; nothing is to be done between tokens. -/
def Scanner.complete? (s : Scanner) : Option Scanner :=
  match s.mode with
  | .between => some s
  | .word read =>
    match String.ofList read.reverse with
    | "null" => some ⟨.between, .scalar .null :: s.tokens⟩
    | "true" => some ⟨.between, .scalar (.bool true) :: s.tokens⟩
    | "false" => some ⟨.between, .scalar (.bool false) :: s.tokens⟩
    | _ => none
  | .number read =>
    (Number.ofLiteral? read.reverse).map fun n => ⟨.between, .scalar (.number n) :: s.tokens⟩
  | _ => none

/-- A character between tokens. -/
def Scanner.start? (s : Scanner) (c : Char) : Option Scanner :=
  let token := fun t => some { s with tokens := t :: s.tokens }
  match c with
  | ' ' | '\t' | '\n' | '\r' => some s
  | '[' => token .openArray
  | ']' => token .closeArray
  | '\x7b' => token .openObject
  | '\x7d' => token .closeObject
  | ',' => token .comma
  | ':' => token .colon
  | '"' => some { s with mode := .string [] }
  | c =>
    if c == '-' || Questionnaire.Number.isDigit c then some { s with mode := .number [c] }
    else if isWordChar c then some { s with mode := .word [c] }
    else none

/-- The mode after the last of four hexadecimal digits. Surrogates must come in pairs. -/
def codeUnit? (read : List Char) (high : Option Nat) (code : Nat) : Option Mode :=
  match high with
  | none =>
    if 0xD800 ≤ code ∧ code < 0xDC00 then some (.lowSurrogate read code false)
    else if 0xDC00 ≤ code ∧ code < 0xE000 then none
    else some (.string (Char.ofNat code :: read))
  | some h =>
    if 0xDC00 ≤ code ∧ code < 0xE000 then
      some (.string (Char.ofNat (0x10000 + (h - 0xD800) * 0x400 + (code - 0xDC00)) :: read))
    else none

/-- The mode after a backslash and one more character. -/
def escaped? (read : List Char) (c : Char) : Option Mode :=
  let char := fun c => some (.string (c :: read))
  match c with
  | '"' | '\\' | '/' => char c
  | 'b' => char '\x08'
  | 'f' => char '\x0c'
  | 'n' => char '\n'
  | 'r' => char '\r'
  | 't' => char '\t'
  | 'u' => some (.unicode read none 0 0)
  | _ => none

def Scanner.step? (s : Scanner) (c : Char) : Option Scanner :=
  let go := fun (mode : Option Mode) => mode.map fun m => { s with mode := m }
  match s.mode with
  | .between => s.start? c
  | .word read =>
    if isWordChar c then some { s with mode := .word (c :: read) }
    else s.complete?.bind (·.start? c)
  | .number read =>
    if isNumberChar c then some { s with mode := .number (c :: read) }
    else s.complete?.bind (·.start? c)
  | .string read =>
    if c == '"' then some ⟨.between, .scalar (.string (String.ofList read.reverse)) :: s.tokens⟩
    else if c == '\\' then some { s with mode := .escape read }
    else if c.toNat < 0x20 then none
    else some { s with mode := .string (c :: read) }
  | .escape read => go (escaped? read c)
  | .unicode read high digits code =>
    (Questionnaire.Number.hexValue? c).bind fun x =>
      let code := 16 * code + x
      if digits == 3 then go (codeUnit? read high code)
      else some { s with mode := .unicode read high (digits + 1) code }
  | .lowSurrogate read high backslash =>
    if backslash then
      if c == 'u' then some { s with mode := .unicode read (some high) 0 0 } else none
    else if c == '\\' then some { s with mode := .lowSurrogate read high true } else none

/-- The tokens of a text; `none` if it is no sequence of tokens. -/
def scan? (s : String) : Option (List Token) := do
  let scanner ← s.toList.foldlM Scanner.step? ⟨.between, []⟩
  let scanner ← scanner.complete?
  return scanner.tokens.reverse

end Token

end Questionnaire.Json
