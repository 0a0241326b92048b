import FlowRules.Text.Steps
import FlowRules.Toml.Quoted
import FlowRules.Toml.Scalar
import FlowRules.Toml.Tree

/-!
# Reading TOML

`parse` reads a whole text as statements, line by line, and then carries them out.
Anything wrong anywhere in the text makes it no document. Arrays and tables inside a
value may go over several lines, with comments, and may end with a comma; they may be
nested up to a limit (`maxDepth`), and a path may have so many names (`maxNames`).
-/

namespace FlowRules.Toml

/-! ## Blanks and comments -/

/-- The text after blanks, ends of lines and comments. -/
def skipLines (inComment : Bool) : List Char → Option (List Char)
  | [] => some []
  | '\r' :: '\n' :: cs => skipLines false cs
  | c :: cs =>
    if c = '\n' then skipLines false cs
    else if inComment then if isControl c then none else skipLines true cs
    else if c = '#' then skipLines true cs
    else if isSpace c then skipLines false cs
    else some (c :: cs)

/-- The text after blanks in a line. -/
def skipSpaces (cs : List Char) : List Char := cs.dropWhile isSpace

/-- The text after a comment, if there is one, and the end of the line. -/
def skipToNextLine (inComment : Bool) : List Char → Option (List Char)
  | [] => some []
  | '\r' :: '\n' :: cs => some cs
  | c :: cs =>
    if c = '\n' then some cs
    else if inComment then if isControl c then none else skipToNextLine true cs
    else if c = '#' then skipToNextLine true cs
    else if isSpace c then skipToNextLine false cs
    else none

/-! ## Names and values -/

/-- A name of a path, and the dot behind it. -/
def pathStep : Step String := fun cs => do
  let (name, rest) ← scanName (skipSpaces cs)
  match skipSpaces rest with
  | '.' :: rest => return ([String.ofList name], rest, true)
  | rest => return ([String.ofList name], rest, false)

/-- How many names a path may have. -/
def maxNames : Nat := 80

/-- Names with dots between them, and the text after them. -/
def scanPath (cs : List Char) : Option (List String × List Char) :=
  (steps pathStep cs).filter fun (path, _) => path.length ≤ maxNames

/-- A reader that takes a value from the front of a text. -/
abbrev Scan (α : Type) := List Char → Option (α × List Char)

/-- An item and the comma behind it, or the bracket that closes the items. -/
def itemStep {α : Type} (scan : Scan α) (close : Char) : Step α := fun cs => do
  match ← skipLines false cs with
  | [] => none
  | c :: rest =>
    if c = close then return ([], rest, false)
    else
      let (a, rest) ← scan (c :: rest)
      match ← skipLines false rest with
      | [] => none
      | c :: rest =>
        if c = ',' then return ([a], rest, true)
        else if c = close then return ([a], rest, false)
        else none

/-- A path, the equals sign and a value, where `skip` takes what may stand between. -/
def scanAssignment (skip : List Char → Option (List Char)) (scan : Scan Toml) :
    Scan (List String × Toml) := fun cs => do
  let (path, rest) ← scanPath cs
  match ← skip rest with
  | '=' :: rest =>
    let (v, rest) ← scan (← skip rest)
    return ((path, v), rest)
  | _ => none

/-- A value whose arrays and tables are nested up to the depth. -/
def scanValue : Nat → Scan Toml
  | _, '"' :: cs => (scanText ('"' :: cs)).map fun (s, rest) => (text (String.ofList s), rest)
  | _, '\'' :: cs => (scanText ('\'' :: cs)).map fun (s, rest) => (text (String.ofList s), rest)
  | 0, cs => scanScalar cs
  | depth + 1, '[' :: cs =>
    (steps (itemStep (scanValue depth) ']') cs).map fun (items, rest) => (array items, rest)
  | depth + 1, '\x7b' :: cs => do
    let assignment := scanAssignment (skipLines false) (scanValue depth)
    let (assignments, rest) ← steps (itemStep assignment '\x7d') cs
    return (← ofAssignments? assignments, rest)
  | _ + 1, cs => scanScalar cs

/-- How deep arrays and tables may be nested. -/
def maxDepth : Nat := 80

/-! ## Statements -/

/-- A statement, and the text after it in its line. -/
def scanStatement : Scan Statement
  | '[' :: '[' :: cs => do
    let (path, rest) ← scanPath cs
    match rest with
    | ']' :: ']' :: rest => return (.openElement path, rest)
    | _ => none
  | '[' :: cs => do
    let (path, rest) ← scanPath cs
    match rest with
    | ']' :: rest => return (.openTable path, rest)
    | _ => none
  | cs => do
    let ((path, v), rest) ← scanAssignment (some ∘ skipSpaces) (scanValue maxDepth) cs
    return (.assign path v, rest)

/-- The next statement and the rest of its line. -/
def statementStep : Step Statement := fun cs => do
  match ← skipLines false cs with
  | [] => return ([], [], false)
  | cs =>
    let (s, rest) ← scanStatement cs
    return ([s], ← skipToNextLine false rest, true)

/-- The statements of a text. A byte order mark in front is no part of it. -/
def statements? : List Char → Option (List Statement)
  | '\ufeff' :: cs => (steps statementStep cs).map Prod.fst
  | cs => (steps statementStep cs).map Prod.fst

/-- The members of the document that a text writes. -/
def parse (cs : List Char) : Option (List (String × Toml)) := (statements? cs).bind ofStatements?

end FlowRules.Toml
