import Questionnaire.Toml.Scalar

namespace Questionnaire.Toml

abbrev Reader (α : Type) := List Char → Option (α × List Char)

/-- Drops blanks on the line. -/
def dropBlanks (cs : List Char) : List Char :=
  cs.dropWhile fun c => c == ' ' || c == '\t'

/-- Drops blanks, line breaks and comments. -/
def dropLines (inComment : Bool) : List Char → List Char
  | [] => []
  | '\r' :: '\n' :: rest => dropLines false rest
  | '\n' :: rest => dropLines false rest
  | c :: rest =>
    if inComment && isTextChar c then dropLines true rest
    else if c == ' ' || c == '\t' then dropLines false rest
    else if c == '#' then dropLines true rest
    else c :: rest

/-- What may follow a statement on its line: blanks and a comment. -/
def endLine? (cs : List Char) : Option (List Char) :=
  let rest := match dropBlanks cs with
    | '#' :: comment => comment.dropWhile isTextChar
    | rest => rest
  match rest with
  | [] => some []
  | '\n' :: rest => some rest
  | '\r' :: '\n' :: rest => some rest
  | _ => none

/-- Items with a mark between any two. -/
def separated? {α : Type} (mark : Char) (item : Reader α) (cs : List Char) :
    Option (List α × List Char) :=
  match item cs with
  | none => none
  | some (a, []) => some ([a], [])
  | some (a, c :: rest) =>
    if c = mark ∧ rest.length < cs.length then
      (separated? mark item rest).map fun (others, rest) => (a :: others, rest)
    else some ([a], c :: rest)
termination_by cs.length

def isBareChar (c : Char) : Bool :=
  Number.isDigit c || ('a' ≤ c && c ≤ 'z') || ('A' ≤ c && c ≤ 'Z') || c == '_' || c == '-'

/-- A key without points: bare or in quotes, with blanks around it. -/
def simpleKey? (cs : List Char) : Option (String × List Char) := do
  let (name, rest) ← match dropBlanks cs with
    | '"' :: rest => basicString? rest
    | '\'' :: rest => literalString? rest
    | rest =>
      let name := rest.takeWhile isBareChar
      if name.isEmpty then none else some (name, rest.dropWhile isBareChar)
  return (String.ofList name, dropBlanks rest)

/-- A dotted key, as the path to its last part and that part. -/
def key? (cs : List Char) : Option ((List String × String) × List Char) := do
  let (parts, rest) ← separated? '.' simpleKey? cs
  if maxLevels < parts.length then failure
  return ((parts.dropLast, ← parts.getLast?), rest)

/-- A key and its value. -/
def pair? (value : Reader Toml) (cs : List Char) :
    Option ((List String × String × Toml) × List Char) := do
  let ((path, key), rest) ← key? cs
  match rest with
  | '=' :: rest =>
    let (v, rest) ← value (dropBlanks rest)
    return ((path, key, v), dropBlanks rest)
  | _ => failure

/-- The items of an array, from its opening bracket on. A comma may follow the last one. -/
def items? (value : Reader Toml) (cs : List Char) : Option (List Toml × List Char) :=
  match dropLines false cs with
  | ']' :: rest => some ([], rest)
  | start =>
    match value start with
    | none => none
    | some (v, rest) =>
      match dropLines false rest with
      | ']' :: rest => some ([v], rest)
      | ',' :: rest =>
        if rest.length < cs.length then
          (items? value rest).map fun (others, rest) => (v :: others, rest)
        else none
      | _ => none
termination_by cs.length

/-- An inline table, from its opening brace on. -/
def inlineTable? (value : Reader Toml) (cs : List Char) : Option (Members × List Char) :=
  match dropBlanks cs with
  | '\x7d' :: rest => some ([], rest)
  | rest =>
    match separated? ',' (pair? value) rest with
    | some (pairs, '\x7d' :: rest) => do
      let ms ← pairs.foldlM (fun ms (path, key, v) => assign? path key v .inline ms) []
      return (ms, rest)
    | _ => none

/-- A value that is no container. -/
def flatValue? (cs : List Char) : Option (Toml × List Char) :=
  match readString? cs with
  | some (text, rest) => some (.string text, rest)
  | none => do
    let (word, rest) := takeWord cs
    return (← scalar? word, rest)

/-- A value with at most `levels` levels of containers. -/
def value? : (levels : Nat) → Reader Toml
  | 0, cs => flatValue? cs
  | levels + 1, cs =>
    match cs with
    | '[' :: rest => (items? (value? levels) rest).map fun (items, rest) => (.array items, rest)
    | '\x7b' :: rest =>
      (inlineTable? (value? levels) rest).map fun (ms, rest) => (.table .inline ms, rest)
    | cs => flatValue? cs

inductive Statement where
  | openTable (path : List String) (key : String)
  | appendTable (path : List String) (key : String)
  | assign (path : List String) (key : String) (value : Toml)

/-- A statement up to the end of its line. -/
def statement? (cs : List Char) : Option (Statement × List Char) := do
  match cs with
  | '[' :: '[' :: rest =>
    match ← key? rest with
    | ((path, key), ']' :: ']' :: rest) => return (.appendTable path key, ← endLine? rest)
    | _ => failure
  | '[' :: rest =>
    match ← key? rest with
    | ((path, key), ']' :: rest) => return (.openTable path key, ← endLine? rest)
    | _ => failure
  | rest =>
    let ((path, key, v), rest) ← pair? (value? maxLevels) rest
    return (.assign path key v, ← endLine? rest)

/-- All statements of a text. -/
def statements? (cs : List Char) : Option (List Statement) :=
  match dropLines false cs with
  | [] => some []
  | start =>
    match statement? start with
    | none => none
    | some (s, rest) =>
      if rest.length < cs.length then (statements? rest).map (s :: ·) else none
termination_by cs.length

/-- A document as far as it has been read, and the path of the table that takes assignments. -/
structure Draft where
  members : Members
  current : List String

def Draft.apply? (d : Draft) : Statement → Option Draft
  | .openTable path key => do
    return ⟨← openTable? path key d.members, path ++ [key]⟩
  | .appendTable path key => do
    return ⟨← appendTable? path key d.members, path ++ [key]⟩
  | .assign path key v => do
    let members ← changeAt? false (assign? path key v) d.current .header d.members
    return { d with members := members }

/-- Reads a document. A byte order mark in front is passed over. -/
def ofText? (s : String) : Option Members := do
  let cs := match s.toList with
    | '\ufeff' :: rest => rest
    | cs => cs
  let d ← (← statements? cs).foldlM Draft.apply? ⟨[], []⟩
  return d.members

end Questionnaire.Toml
