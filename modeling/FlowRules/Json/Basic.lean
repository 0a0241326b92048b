import FlowRules.Text.Numeral

/-!
# JSON documents

A `Json` is what a text contains, read as far as it is JSON. Where the text stops
being JSON stands `Json.broken`, and the arrays and objects around that place are not
closed. A reader that goes through a document in order therefore meets the values
before the fault, and then the fault. `Json.wellFormed` says that there is none.

The escapes of a string may write no text, such as half of a surrogate pair. Such a
string, as a value or as the name of a member, has no content; skipping it is no
fault, but using it is.
-/

namespace FlowRules

/-- A number as it is written : its sign, its whole part, and the text of the fraction
and the exponent. -/
structure JsonNumber where
  negative : Bool
  whole : Nat
  tail : List UInt8 := []
  deriving DecidableEq

/-- The number, if it is written as a natural number. -/
def JsonNumber.natural? (n : JsonNumber) : Option Nat :=
  if n.negative || !n.tail.isEmpty then none else some n.whole

/-- The content of a text, read as far as it is JSON. -/
inductive Json where
  | null
  | bool (b : Bool)
  | number (n : JsonNumber)
  | string (content : Option String)
  | array (items : List Json) (closed : Bool)
  | object (members : List (Option String × Json)) (closed : Bool)
  /-- The place where the text stops being JSON. -/
  | broken

namespace Json

instance : Inhabited Json := ⟨null⟩

/-- A natural number. -/
def nat (n : Nat) : Json := number ⟨false, n, []⟩

/-- A whole number. -/
def int : Int → Json
  | .ofNat n => nat n
  | .negSucc n => number ⟨true, n + 1, []⟩

/-- A text. -/
def text (s : String) : Json := string (some s)

/-- Is the document `null`? -/
def isNull : Json → Bool
  | null => true
  | _ => false

/-- A closed array. -/
def list (items : List Json) : Json := array items true

/-- A closed object. -/
def dict (members : List (String × Json)) : Json :=
  object (members.map fun (name, v) => (some name, v)) true

mutual

/-- Does the text not stop being JSON inside the value? -/
def wellFormed : Json → Bool
  | array items closed => closed && wellFormedItems items
  | object members closed => closed && wellFormedMembers members
  | broken => false
  | _ => true

/-- Are all items well-formed? -/
def wellFormedItems : List Json → Bool
  | [] => true
  | v :: vs => v.wellFormed && wellFormedItems vs

/-- Are the values of all members well-formed? -/
def wellFormedMembers : List (Option String × Json) → Bool
  | [] => true
  | (_, v) :: ms => v.wellFormed && wellFormedMembers ms

end

end Json

end FlowRules
