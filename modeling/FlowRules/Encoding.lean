import FlowRules.Json.Stored
import FlowRules.Postcard.Stored
import FlowRules.Ron.Stored

/-!
# Encodings

The formats that a single value is stored in. An encoding is asked for by its name, in
any mixture of cases. `encode` gives the bytes of a value and `decode` the value that
bytes write, by the layout of its type.
-/

namespace FlowRules

/-- A format of stored values. -/
inductive Encoding where
  | json
  | postcard
  | ron
  deriving DecidableEq

/-- A name that no encoding has. -/
structure UnknownEncoding where
  name : String
  deriving DecidableEq

/-- The name in words. -/
def UnknownEncoding.message (e : UnknownEncoding) : String := "unknown encoding: " ++ e.name

namespace Encoding

/-- Values are stored in JSON unless something else is asked for. -/
instance : Inhabited Encoding := ⟨json⟩

/-- The encoding of a name. -/
def parse (name : String) : Except UnknownEncoding Encoding :=
  let lower := name.map Char.toLower
  if lower = "json" then .ok json
  else if lower = "postcard" then .ok postcard
  else if lower = "ron" then .ok ron
  else .error ⟨name⟩

/-- The diagnostic form. -/
def inspect : Encoding → String
  | json => "Json"
  | postcard => "Postcard"
  | ron => "Ron"

/-- The bytes of a value. -/
def encode {α : Type} (l : Layout α) : Encoding → α → List UInt8
  | json => l.encodeJson
  | postcard => l.put
  | ron => l.encodeRon

/-- The value that bytes write. -/
def decode {α : Type} (l : Layout α) : Encoding → List UInt8 → Except DecodeError α
  | json => l.decodeJson
  | postcard => l.decodePostcard
  | ron => l.decodeRon

end Encoding

end FlowRules
