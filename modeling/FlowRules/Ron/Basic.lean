import FlowRules.Text.Numeral

/-!
# RON documents

A `Ron` is what a text in the RON notation contains, read as far as it is RON. As in
`Json`, the place where the text stops being RON is `Ron.broken`, and the brackets
around it are not closed.

Parentheses hold either items or members : they hold members if the first thing in
them is a word with a colon behind it. A word in front of them is their `Ron.Label`.
-/

namespace FlowRules

/-- A whole number as it is written : its sign, its size, whether its digits are decimal,
and the type behind it. -/
structure RonInt where
  negative : Bool := false
  size : Nat
  decimal : Bool := true
  type : Option String := none
  deriving DecidableEq

/-- What stands in front of parentheses : nothing, a name, or the word `Some`, which is a
name only where it is written as a raw word. -/
inductive Ron.Label where
  | nothing
  | name (name : String)
  | some
  deriving DecidableEq

/-- The content of a text, read as far as it is RON. -/
inductive Ron where
  | bool (b : Bool)
  /-- A number that starts as a whole number. It is not `exact` if more follows, such as
  a fraction. -/
  | int (n : RonInt) (exact : Bool)
  | text (s : String)
  /-- A character, bytes, or a number that does not start as a whole number. -/
  | literal
  | word (name : String)
  | absent
  /-- The word `Some` and a value behind it without parentheses. -/
  | present (content : Ron)
  /-- A pair of parentheses with nothing at all between them. -/
  | unit
  | list (items : List Ron) (closed : Bool)
  | map (entries : List (Ron × Ron)) (closed : Bool)
  | tuple (label : Ron.Label) (items : List Ron) (closed : Bool)
  | fields (label : Ron.Label) (members : List (String × Ron)) (closed : Bool)
  /-- The place where the text stops being RON. -/
  | broken

namespace Ron

instance : Inhabited Ron := ⟨absent⟩

/-- A natural number. -/
def nat (n : Nat) : Ron := int { size := n } true

/-- The extensions of the notation that make a difference for the values stored here. -/
structure Extensions where
  /-- A value may stand for `Some` of it, and the word `Some` needs no parentheses. -/
  implicitSome : Bool := false
  /-- A record or items in the parentheses behind `Some` or a variant have none of their
  own. -/
  sharedParens : Bool := false
  /-- The name of a record may not be left out. -/
  explicitNames : Bool := false

end Ron

end FlowRules
