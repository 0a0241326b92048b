import FlowRules.Toml.Quoted
import FlowRules.Toml.Tree

/-!
# Writing TOML

`print` writes a document statement by statement, each in a line of its own. An empty
line stands in front of each opened table but the first statement.
-/

namespace FlowRules.Toml

/-- Texts with a separator between them. -/
def separated (sep : List Char) (parts : List (List Char)) : List Char :=
  (parts.intersperse sep).flatten

mutual

/-- A value in one line. -/
def printValue : Toml → List Char
  | bool true => "true".toList
  | bool false => "false".toList
  | int n => (if n < 0 then ['-'] else []) ++ Nat.toDigits 10 n.natAbs
  | number _ => "nan".toList
  | text s => printText s.toList
  | time => []
  | array items => '[' :: separated [',', ' '] (printItems items) ++ [']']
  | table members =>
    "\x7b ".toList ++ separated [',', ' '] (printMembers members) ++ " \x7d".toList

/-- Each item in one line. -/
def printItems : List Toml → List (List Char)
  | [] => []
  | v :: vs => printValue v :: printItems vs

/-- Each member in one line. -/
def printMembers : List (String × Toml) → List (List Char)
  | [] => []
  | (name, v) :: ms => (printName name.toList ++ " = ".toList ++ printValue v) :: printMembers ms

end

/-- Names with dots between them. -/
def printPath (path : List String) : List Char :=
  separated ['.'] (path.map fun name => printName name.toList)

/-- A statement in its line. -/
def printStatement : Statement → List Char
  | .assign path v => printPath path ++ " = ".toList ++ printValue v ++ ['\n']
  | .openTable path => '[' :: printPath path ++ "]\n".toList
  | .openElement path => "[[".toList ++ printPath path ++ "]]\n".toList

/-- The empty line in front of a statement, if it has one. -/
def printGap : Statement → List Char
  | .assign _ _ => []
  | _ => ['\n']

/-- The lines of statements. -/
def printStatements : List Statement → List Char
  | [] => []
  | s :: ss => printStatement s ++ ss.flatMap fun s => printGap s ++ printStatement s

/-- The text of a document. -/
def print (members : List (String × Toml)) : List Char := printStatements (toStatements members)

end FlowRules.Toml
