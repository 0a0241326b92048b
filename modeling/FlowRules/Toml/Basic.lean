/-!
# TOML documents

A `Toml` is a value of the TOML notation, and a document is a table. A document is
written as a list of statements (`Toml.Statement`) : a statement puts a value under a
dotted name, or opens the table that the following values belong to.
-/

namespace FlowRules

/-- A value of the notation. -/
inductive Toml where
  | bool (b : Bool)
  | int (n : Int)
  /-- A number that is not whole, or one of a base without digits. It is not `valued` if
  it has no digits or is too large for a float. -/
  | number (valued : Bool)
  | text (s : String)
  /-- A date, a time of day, or both. -/
  | time
  | array (items : List Toml)
  | table (members : List (String × Toml))

namespace Toml

instance : Inhabited Toml := ⟨table []⟩

/-- A line of a document, or a few. -/
inductive Statement where
  /-- The value of a name in the open table. -/
  | assign (path : List String) (v : Toml)
  /-- Opens the table of a name. -/
  | openTable (path : List String)
  /-- Opens a new table in the array of a name. -/
  | openElement (path : List String)

mutual

/-- Do all numbers in the value have values? A whole number has one of 128 bits. -/
def valued : Toml → Bool
  | int n => decide (-(BitVec.intMin 128).toNat ≤ n ∧ n ≤ (BitVec.allOnes 128).toNat)
  | number valued => valued
  | array items => itemsValued items
  | table members => membersValued members
  | _ => true

/-- Do all numbers in the items have values? -/
def itemsValued : List Toml → Bool
  | [] => true
  | v :: vs => v.valued && itemsValued vs

/-- Do all numbers in the members have values? -/
def membersValued : List (String × Toml) → Bool
  | [] => true
  | (_, v) :: ms => v.valued && membersValued ms

end

end Toml

end FlowRules
