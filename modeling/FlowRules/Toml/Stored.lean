import FlowRules.Layout.Document
import FlowRules.Text.Utf8
import FlowRules.Toml.Parser
import FlowRules.Toml.Printer

/-!
# Values in TOML

A record is a table of its fields, or an array of them in order. An absent value is
left out. An identifier is its text or an array of its octets. A variant that carries
nothing is its name, any other one a table with what it carries under the name. Where
an array holds more than is asked for, the rest is not looked at. `Layout.printToml`
writes the values of a layout in this way and `Layout.parseToml` reads them.
-/

namespace FlowRules

namespace Toml

/-- The tree of a variant. -/
def ofVariant (name : String) : Carried Toml → Toml
  | .nothing => text name
  | .value v => table [(name, v)]
  | .fields members => table [(name, table members)]

/-- The truth value of a tree. -/
def bool? : Toml → Option Bool
  | bool b => some b
  | _ => none

/-- The natural number of a tree. -/
def natural? : Toml → Option Nat
  | int (.ofNat n) => some n
  | _ => none

/-- The text of a tree. -/
def text? : Toml → Option String
  | text s => some s
  | _ => none

/-- The items of an array. -/
def items? : Toml → Option (Items Toml)
  | array values => some { values, loose := true }
  | _ => none

/-- So many octets from the front of the items. -/
def octets? : Nat → List Toml → Option (List Octet)
  | 0, _ => some []
  | _ + 1, [] => none
  | n + 1, v :: vs => do
    let o ← v.natural?
    if o < 256 then return BitVec.ofNat 8 o :: (← octets? n vs) else none

/-- The identifier of a tree. -/
def identifier? : Toml → Option (BitVec 128)
  | text s => uuid? s.toList
  | array items => (octets? 16 items).map (ofBigEndian 128)
  | _ => none

/-- The members of a table under their names. -/
def entries (members : List (String × Toml)) : Entries Toml :=
  { values := members.map fun (name, v) => (some name, v) }

/-- The members of a table. -/
def entries? : Toml → Option (Entries Toml)
  | table members => some (entries members)
  | _ => none

/-- The fields of a record, as a table or as an array. A time has one member, which no
record knows. -/
def parts? : Toml → Option (Parts Toml)
  | table members => some (.named (entries members))
  | time => some (.named (entries []))
  | array values => some (.ordered { values, loose := true })
  | _ => none

/-- The tree as a variant. -/
def variant? : Toml → Option (Choice Toml)
  | text name => some { name, nothing := true }
  | table [(name, v)] => some { name, value := some v, fields := v.parts? }
  | _ => none

/-- How values are written in TOML. -/
def writer : DataWriter Toml where
  bool := bool
  nat n := int n
  text := text
  tuple := array
  list := array
  dict := table
  record := table
  optional o := o
  variant := ofVariant

/-- How values are recognised in TOML. -/
def reader : DataReader Toml where
  bool? := bool?
  nat? _ v := v.natural?.map fun n => (n, true)
  text? := text?
  uuid? := identifier?
  tuple? := items?
  list? := items?
  dict? := entries?
  record? _ := parts?
  optional? v := some (some (v, true))
  variant? := variant?
  skippable := valued

/-- The members of a tree, if it is a table. -/
def members : Toml → List (String × Toml)
  | table members => members
  | _ => []

end Toml

/-! ## Texts -/

/-- The text of a value in TOML. A value that is no table has none. -/
def Layout.printToml {α : Type} (l : Layout α) (a : α) : List Char :=
  Toml.print (l.write Toml.writer a).members

/-- The value that a text of TOML writes. -/
def Layout.parseToml {α : Type} (l : Layout α) (cs : List Char) : Except DecodeError α := do
  l.read Toml.reader (.table (← recognised (Toml.parse cs)))

end FlowRules
