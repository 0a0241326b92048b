import FlowRules.Postcard.Varint
import FlowRules.Text.Utf8

/-!
# Values in Postcard

`Layout.put` writes a value as bytes and `Layout.get` reads it from the front of some
bytes. Nothing is named : the fields of a record follow each other, a variant is
told by its number, and a list, a text and an identifier follow their length. A word
of eight bits is one byte, a longer one a number of varying length. What follows the
value is not looked at.
-/

namespace FlowRules

open Postcard (putVarint getVarint)

/-! ## Writing -/

namespace Postcard

/-- A length. -/
def putLength (n : Nat) : List UInt8 := putVarint 64 n

/-- A text after its length. -/
def putText (s : String) : List UInt8 :=
  let bytes := Utf8.ofString s
  putLength bytes.length ++ bytes

/-- An identifier after its length. -/
def putUuid (bits : BitVec 128) : List UInt8 :=
  putLength 16 ++ (bigEndian 16 bits).map UInt8.ofBitVec

/-- A word. -/
def putWord {w : Nat} (x : BitVec w) : List UInt8 :=
  if w = 8 then [UInt8.ofNat x.toNat] else putVarint w x.toNat

/-- The bytes of a value that may be absent. -/
def putOption : Option (List UInt8) → List UInt8
  | none => [0]
  | some bytes => 1 :: bytes

end Postcard

open Postcard in
mutual

/-- The bytes of a value. -/
def Layout.put : {α : Type} → Layout α → α → List UInt8
  | _, .bool, b => [if b then 1 else 0]
  | _, .word _, x => putWord x
  | _, .prefixLen, len => putWord len.toOctet
  | _, .text, s => putText s
  | _, .uuid, bits => putUuid bits
  | _, .octets _, v => v.toList.map UInt8.ofBitVec
  | _, .list l, as => putLength as.length ++ as.flatMap l.put
  | _, .dict l, entries =>
    putLength entries.length ++ entries.flatMap fun e => putText e.1 ++ l.put e.2
  | _, .record _ fields, a => fields.put a
  | _, .choice variants, a => variants.put 0 a
  | _, .via _ parts _ l, b => l.put (parts b)

/-- The bytes of the fields in order. -/
def Fields.put : {α : Type} → Fields α → α → List UInt8
  | _, .nil, _ => []
  | _, .needed _ _ l rest, (a, b) => l.put a ++ rest.put b
  | _, .optional _ _ l rest, (o, b) => putOption (o.map l.put) ++ rest.put b

/-- The bytes of what a variant carries. -/
def Payload.put : {α : Type} → Payload α → α → List UInt8
  | _, .nothing, _ => []
  | _, .value l, a => l.put a
  | _, .fields fields, a => fields.put a

/-- The bytes of a variant, counting from the given number. -/
def Variants.put : {α : Type} → Variants α → Nat → α → List UInt8
  | _, .nil, _, e => nomatch e
  | _, .cons _ payload rest, i, s =>
    match s with
    | .inl a => putVarint 32 i ++ payload.put a
    | .inr b => rest.put (i + 1) b

end

/-! ## Reading -/

namespace Postcard

/-- A value and the bytes after it. -/
abbrev Get (α : Type) := List UInt8 → Except DecodeError (α × List UInt8)

/-- The next byte. -/
def getByte : Get UInt8
  | [] => .error .endOfInput
  | b :: bytes => .ok (b, bytes)

/-- As many bytes as asked, which must all be there. -/
def getBytes (n : Nat) : Get (List UInt8) := fun bytes =>
  if bytes.length < n then .error .endOfInput else .ok (bytes.take n, bytes.drop n)

/-- A length. -/
def getLength : Get Nat := getVarint 64

/-- A truth value. -/
def getBool : Get Bool := fun bytes => do
  let (b, bytes) ← getByte bytes
  if b = 0 then return (false, bytes)
  else if b = 1 then return (true, bytes)
  else throw .badBool

/-- A word. -/
def getWord (w : Nat) : Get (BitVec w) := fun bytes => do
  if w = 8 then
    let (b, bytes) ← getByte bytes
    return (BitVec.ofNat w b.toNat, bytes)
  else
    let (n, bytes) ← getVarint w bytes
    return (BitVec.ofNat w n, bytes)

/-- A prefix length. -/
def getPrefixLen : Get PrefixLen := fun bytes => do
  let (b, bytes) ← getByte bytes
  match PrefixLen.ofOctet b.toBitVec with
  | .ok len => return (len, bytes)
  | .error _ => throw .badValue

/-- A text. -/
def getText : Get String := fun bytes => do
  let (n, bytes) ← getLength bytes
  let (text, bytes) ← getBytes n bytes
  match Utf8.toString? text with
  | some s => return (s, bytes)
  | none => throw .badUtf8

/-- An identifier. -/
def getUuid : Get (BitVec 128) := fun bytes => do
  let (n, bytes) ← getLength bytes
  let (octets, bytes) ← getBytes n bytes
  if n = 16 then return (ofBigEndian 128 (octets.map UInt8.toBitVec), bytes)
  else throw .badValue

/-- As many octets as asked. -/
def getOctets : (n : Nat) → Get (Vector Octet n)
  | 0, bytes => .ok (#v[], bytes)
  | n + 1, bytes => do
    let (b, bytes) ← getByte bytes
    let (os, bytes) ← getOctets n bytes
    return (os.insertIdx 0 b.toBitVec, bytes)

/-- As many values as asked. -/
def getMany {α : Type} (get : Get α) : Nat → Get (List α)
  | 0, bytes => .ok ([], bytes)
  | n + 1, bytes => do
    let (a, bytes) ← get bytes
    let (as, bytes) ← getMany get n bytes
    return (a :: as, bytes)

/-- A value and the one after it. -/
def getBoth {α β : Type} (get : Get α) (get' : Get β) : Get (α × β) := fun bytes => do
  let (a, bytes) ← get bytes
  let (b, bytes) ← get' bytes
  return ((a, b), bytes)

/-- A text and a value. -/
def getEntry {α : Type} (get : Get α) : Get (String × α) := getBoth getText get

/-- A value that may be absent. -/
def getOption {α : Type} (get : Get α) : Get (Option α) := fun bytes => do
  let (b, bytes) ← getByte bytes
  if b = 0 then return (none, bytes)
  else if b = 1 then
    let (a, bytes) ← get bytes
    return (some a, bytes)
  else throw .badOption

/-- The value made from another one. -/
def getMap {α β : Type} (f : α → β) (get : Get α) : Get β := fun bytes => do
  let (a, bytes) ← get bytes
  return (f a, bytes)

end Postcard

open Postcard in
mutual

/-- The value at the front of some bytes, and the bytes after it. -/
def Layout.get : {α : Type} → Layout α → Get α
  | _, .bool => getBool
  | _, .word w => getWord w
  | _, .prefixLen => getPrefixLen
  | _, .text => getText
  | _, .uuid => getUuid
  | _, .octets n => getOctets n
  | _, .list l => fun bytes => do
    let (n, bytes) ← getLength bytes
    getMany l.get n bytes
  | _, .dict l => fun bytes => do
    let (n, bytes) ← getLength bytes
    getMany (getEntry l.get) n bytes
  | _, .record _ fields => fields.get
  | _, .choice variants => fun bytes => do
    let (i, bytes) ← getVarint 32 bytes
    variants.get i bytes
  | _, .via make _ _ l => getMap make l.get

/-- The fields in order. -/
def Fields.get : {α : Type} → Fields α → Get α
  | _, .nil => fun bytes => .ok ((), bytes)
  | _, .needed _ _ l rest => getBoth l.get rest.get
  | _, .optional _ _ l rest => getBoth (getOption l.get) rest.get

/-- What a variant carries. -/
def Payload.get : {α : Type} → Payload α → Get α
  | _, .nothing => fun bytes => .ok ((), bytes)
  | _, .value l => l.get
  | _, .fields fields => fields.get

/-- The variant of a number. -/
def Variants.get : {α : Type} → Variants α → Nat → Get α
  | _, .nil, _ => fun _ => .error .badValue
  | _, .cons _ payload _, 0 => getMap .inl payload.get
  | _, .cons _ _ rest, i + 1 => getMap .inr (rest.get i)

end

/-- The value that bytes write. -/
def Layout.decodePostcard {α : Type} (l : Layout α) (bytes : List UInt8) : Except DecodeError α :=
  (l.get bytes).map Prod.fst

end FlowRules
