import FlowRules.Json.Basic
import FlowRules.Text.Utf8

/-!
# Writing JSON

`print` writes a document without blanks. In strings a quote, a backslash and the
control characters are escaped, by a letter where there is one and else by four
hexadecimal digits; every other character stands for itself.
-/

namespace FlowRules.Json

/-- The letter that escapes a character, if it has one. -/
def escapeLetter? (c : Char) : Option Char :=
  if c = '"' ∨ c = '\\' then some c
  else if c = '\x08' then some 'b'
  else if c = '\t' then some 't'
  else if c = '\n' then some 'n'
  else if c = '\x0c' then some 'f'
  else if c = '\r' then some 'r'
  else none

/-- A character as it stands in a string. -/
def escapeChar (c : Char) : List Char :=
  match escapeLetter? c with
  | some letter => ['\\', letter]
  | none => if c.toNat < 0x20 then '\\' :: 'u' :: hexDigits 4 c.toNat else [c]

/-- A text as a string. -/
def printString (s : String) : List Char := '"' :: s.toList.flatMap escapeChar ++ ['"']

/-- A number. -/
def printNumber (n : JsonNumber) : List Char :=
  (if n.negative then ['-'] else []) ++ Nat.toDigits 10 n.whole ++
    n.tail.map fun b => Char.ofNat b.toNat

mutual

/-- The text of a document. What is not closed is not finished either. -/
def print : Json → List Char
  | .null => "null".toList
  | .bool true => "true".toList
  | .bool false => "false".toList
  | .number n => printNumber n
  | .string s => printString (s.getD "")
  | .array items closed => '[' :: printItems items ++ if closed then [']'] else []
  | .object members closed => '\x7b' :: printMembers members ++ if closed then ['\x7d'] else []
  | .broken => []

/-- Items with commas between them. -/
def printItems : List Json → List Char
  | [] => []
  | v :: vs => v.print ++ printMoreItems vs

/-- Items with a comma in front of each. -/
def printMoreItems : List Json → List Char
  | [] => []
  | v :: vs => ',' :: v.print ++ printMoreItems vs

/-- Members with commas between them. -/
def printMembers : List (Option String × Json) → List Char
  | [] => []
  | (name, v) :: ms => printString (name.getD "") ++ ':' :: v.print ++ printMoreMembers ms

/-- Members with a comma in front of each. -/
def printMoreMembers : List (Option String × Json) → List Char
  | [] => []
  | (name, v) :: ms => ',' :: printString (name.getD "") ++ ':' :: v.print ++ printMoreMembers ms

end

/-- The bytes of a document. -/
def bytes (v : Json) : List UInt8 := Utf8.encode v.print

end FlowRules.Json
