import FlowRules.Ron.Parser
import FlowRules.Ron.Place
import FlowRules.Ron.Printer

/-!
# Values in RON

A record is its fields in parentheses, and the name of its type may stand in front. An
optional value is `None` or `Some` of it. A variant is its name, with its value or its
fields in parentheses. So many octets as a type has stand in parentheses, all other
lists in brackets, and a dictionary in braces. `Layout.printRon` writes the values of
a layout in this way and `Layout.parseRon` reads them.
-/

namespace FlowRules

namespace Ron

/-! ## Writing -/

/-- The tree of a list. -/
def ofList (items : List Ron) : Ron := list items true

/-- The tree of a dictionary. -/
def ofDict (entries : List (String × Ron)) : Ron :=
  map (entries.map fun (key, v) => (text key, v)) true

/-- The tree of an optional value. -/
def ofOption : Option Ron → Ron
  | none => absent
  | some v => tuple .some [v] true

/-- The tree of a variant. -/
def ofVariant (name : String) : Carried Ron → Ron
  | .nothing => word name
  | .value v => tuple (.name name) [v] true
  | .fields members => fields (.name name) members true

/-- How values are written in RON. -/
def writer : DataWriter Ron where
  bool := bool
  nat := nat
  text := text
  tuple items := tuple .nothing items true
  list := ofList
  dict := ofDict
  record members := fields .nothing members true
  optional o := some (ofOption o)
  variant := ofVariant

/-! ## Recognising -/

/-- How values are recognised in RON. -/
def reader (e : Extensions) : DataReader Place where
  bool? := Place.bool?
  nat? := Place.natural?
  text? := Place.text?
  uuid? p := p.text?.bind fun s => uuid? s.toList
  tuple? := Place.tuple?
  list? := Place.list?
  dict? := Place.dict?
  record? := Place.record? e
  optional? := Place.optional? e
  variant? := Place.variant? e
  skippable := Place.skippable e

end Ron

/-! ## Texts -/

/-- The text of a value in RON. -/
def Layout.printRon {α : Type} (l : Layout α) (a : α) : List Char := (l.write Ron.writer a).print

/-- The value that a text of RON writes, with nothing after it. -/
def Layout.parseRon {α : Type} (l : Layout α) (cs : List Char) : Except DecodeError α := do
  let (e, v, ended) ← recognised (Ron.parse cs)
  let a ← l.read (Ron.reader e) { value := v }
  ensure ended
  return a

/-- The bytes of a value in RON. -/
def Layout.encodeRon {α : Type} (l : Layout α) (a : α) : List UInt8 :=
  Utf8.encode (l.printRon a)

/-- The value that bytes of RON write. -/
def Layout.decodeRon {α : Type} (l : Layout α) (bytes : List UInt8) : Except DecodeError α := do
  l.parseRon (← recognised (Utf8.decode? bytes))

end FlowRules
