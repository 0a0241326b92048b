import FlowRules.Ron.Basic
import FlowRules.Text.Printable

/-!
# Writing RON

`print` writes a document without blanks. In texts the quotes, the backslash and some
controls are escaped by a letter, and every other character that does not show by
itself by its code point.
-/

namespace FlowRules.Ron

/-- The letter that escapes a character, if it has one. -/
def escapeLetter? (c : Char) : Option Char :=
  if c = '"' ∨ c = '\'' ∨ c = '\\' then some c
  else if c = '\n' then some 'n'
  else if c = '\r' then some 'r'
  else if c = '\t' then some 't'
  else if c = '\x00' then some '0'
  else none

/-- A character as it stands in a text. -/
def escapeChar (c : Char) : List Char :=
  match escapeLetter? c with
  | some letter => ['\\', letter]
  | none => if isPrintable c then [c] else '\\' :: 'u' :: '\x7b' :: hexDigits 1 c.toNat ++ ['\x7d']

/-- A text in quotes. -/
def printText (s : String) : List Char := '"' :: s.toList.flatMap escapeChar ++ ['"']

/-- A whole number. -/
def printInt (n : RonInt) : List Char :=
  (if n.negative then ['-'] else []) ++ Nat.toDigits 10 n.size ++ (n.type.getD "").toList

/-- The word in front of parentheses. -/
def printLabel : Label → List Char
  | .nothing => []
  | .name name => name.toList
  | .some => "Some".toList

/-- The bracket that ends a value, if the value is closed. -/
def printEnd (bracket : Char) (closed : Bool) : List Char := if closed then [bracket] else []

mutual

/-- The text of a document. What is not closed is not finished either. -/
def print : Ron → List Char
  | .bool true => "true".toList
  | .bool false => "false".toList
  | .int n _ => printInt n
  | .text s => printText s
  | .literal => []
  | .word name => name.toList
  | .absent => "None".toList
  | .present v => "Some ".toList ++ v.print
  | .unit => "()".toList
  | .list items closed => '[' :: printItems items ++ printEnd ']' closed
  | .map entries closed => '\x7b' :: printEntries entries ++ printEnd '\x7d' closed
  | .tuple label items closed =>
    printLabel label ++ '(' :: printItems items ++ printEnd ')' closed
  | .fields label members closed =>
    printLabel label ++ '(' :: printMembers members ++ printEnd ')' closed
  | .broken => []

/-- Items with commas between them. -/
def printItems : List Ron → List Char
  | [] => []
  | v :: vs => v.print ++ printMoreItems vs

/-- Items with a comma in front of each. -/
def printMoreItems : List Ron → List Char
  | [] => []
  | v :: vs => ',' :: v.print ++ printMoreItems vs

/-- Entries with commas between them. -/
def printEntries : List (Ron × Ron) → List Char
  | [] => []
  | (k, v) :: es => k.print ++ ':' :: v.print ++ printMoreEntries es

/-- Entries with a comma in front of each. -/
def printMoreEntries : List (Ron × Ron) → List Char
  | [] => []
  | (k, v) :: es => ',' :: k.print ++ ':' :: v.print ++ printMoreEntries es

/-- Members with commas between them. -/
def printMembers : List (String × Ron) → List Char
  | [] => []
  | (name, v) :: ms => name.toList ++ ':' :: v.print ++ printMoreMembers ms

/-- Members with a comma in front of each. -/
def printMoreMembers : List (String × Ron) → List Char
  | [] => []
  | (name, v) :: ms => ',' :: name.toList ++ ':' :: v.print ++ printMoreMembers ms

end

end FlowRules.Ron
