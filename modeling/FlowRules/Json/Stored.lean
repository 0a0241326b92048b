import FlowRules.Json.Parser
import FlowRules.Json.Printer
import FlowRules.Layout.Document

/-!
# Values in JSON

A record is an object of its fields, or an array of them in order. An absent value is
`null`. A variant that carries nothing is its name, any other one an object with what
it carries under the name. Words are numbers written without fraction and exponent.
`Layout.toJson` writes the values of a layout in this way and `Layout.ofJson` reads
them.
-/

namespace FlowRules

namespace Json

/-- The tree of a variant. -/
def ofVariant (name : String) : Carried Json → Json
  | .nothing => text name
  | .value v => dict [(name, v)]
  | .fields members => dict [(name, dict members)]

/-- The truth value of a tree. -/
def bool? : Json → Option Bool
  | bool b => some b
  | _ => none

/-- The natural number of a tree. -/
def natural? : Json → Option Nat
  | number n => n.natural?
  | _ => none

/-- The text of a tree. -/
def text? : Json → Option String
  | string content => content
  | _ => none

/-- The items of an array. -/
def items? : Json → Option (Items Json)
  | array values closed => some { values, closed }
  | _ => none

/-- The members of an object. -/
def entries? : Json → Option (Entries Json)
  | object values closed => some { values, closed }
  | _ => none

/-- The fields of a record, as an object or as an array. -/
def parts? : Json → Option (Parts Json)
  | object values closed => some (.named { values, closed })
  | array values closed => some (.ordered { values, closed })
  | _ => none

/-- Nothing if the tree is `null`, and otherwise the value. -/
def optional? : Json → Option (Json × Bool)
  | null => none
  | v => some (v, true)

/-- The tree as a variant. Nothing may follow the first member of its object. -/
def variant? : Json → Option (Choice Json)
  | string (some name) => some { name, nothing := true }
  | object ((some name, v) :: others) closed =>
    some { name, nothing := v.isNull, value := some v, fields := v.parts?,
           ends := others.isEmpty && closed }
  | _ => none

/-- How values are written in JSON. -/
def writer : DataWriter Json where
  bool := bool
  nat := nat
  text := text
  tuple := list
  list := list
  dict := dict
  record := dict
  optional o := some (o.getD null)
  variant := ofVariant

/-- How values are recognised in JSON. -/
def reader : DataReader Json where
  bool? := bool?
  nat? _ v := v.natural?.map fun n => (n, true)
  text? := text?
  uuid? v := v.text?.bind fun s => uuid? s.toList
  tuple? := items?
  list? := items?
  dict? := entries?
  record? _ := parts?
  optional? v := some v.optional?
  variant? := variant?
  skippable := wellFormed

end Json

/-- The value as a document. -/
def Layout.toJson {α : Type} (l : Layout α) (a : α) : Json := l.write Json.writer a

/-- The value that a document holds. -/
def Layout.ofJson {α : Type} (l : Layout α) (v : Json) : Except DecodeError α :=
  l.read Json.reader v

/-! ## Texts -/

/-- The bytes of a value in JSON. -/
def Layout.encodeJson {α : Type} (l : Layout α) (a : α) : List UInt8 := (l.toJson a).bytes

/-- The value that bytes of JSON write, with nothing after it. -/
def Layout.decodeJson {α : Type} (l : Layout α) (bytes : List UInt8) : Except DecodeError α := do
  let (v, ended) := Json.parse bytes
  let a ← l.ofJson v
  ensure ended
  return a

end FlowRules
