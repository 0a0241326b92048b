import FlowRules.ConfigError
import FlowRules.Layout.Basic

/-!
# Faults, and which of two is reported

A document that cannot be read has a `DecodeError`. Of several faults in a document of
text the one that comes first is reported. The members of a record can come in any
order, so a record is read field by field, and every fault is placed at the member
where it shows (`Located`). `Located.both` keeps the earlier of two faults, and
`pick` reads the member of a field : one that is missing is a fault at the end, one
that is repeated a fault at its second place.
-/

namespace FlowRules

/-- Why a document cannot be read. -/
inductive DecodeError where
  /-- The text does not write a value of the type. -/
  | malformed
  /-- A value in the text is refused. -/
  | invalid (cause : ConfigError)
  | endOfInput
  | badVarint
  | badBool
  | badOption
  | badUtf8
  /-- A value in the bytes is refused. -/
  | badValue
  deriving DecidableEq

/-- The cause in words. That a text is malformed has no wording beyond a star. -/
def DecodeError.message : DecodeError → String
  | malformed => "*"
  | invalid cause => cause.message
  | endOfInput => "Hit the end of buffer, expected more data"
  | badVarint =>
    "Found a varint that didn't terminate. Is the usize too big for this platform?"
  | badBool => "Found a bool that wasn't 0 or 1"
  | badOption => "Found an Option discriminant that wasn't 0 or 1"
  | badUtf8 => "Tried to parse invalid utf-8"
  | badValue => "Serde Deserialization Error"

/-- A prefix length that is a word of eight bits. -/
def readPrefixLen (n : Nat) : Except DecodeError PrefixLen :=
  if n < 256 then
    match PrefixLen.ofOctet (BitVec.ofNat 8 n) with
    | .ok len => .ok len
    | .error cause => .error (.invalid cause)
  else .error .malformed

/-- A word of `w` bits, unless they cannot hold the number. -/
def readWord (w n : Nat) : Except DecodeError (BitVec w) :=
  let x := BitVec.ofNat w n
  if x.toNat = n then .ok x else .error .malformed

/-! ## Members -/

/-- A fault with the place of the member where it shows. -/
abbrev Fault := Nat × DecodeError

/-- A value, or a fault at its place. -/
abbrev Located := Except Fault

namespace Located

/-- The earlier of two faults. -/
def earlier (f g : Fault) : Fault := if f.1 ≤ g.1 then f else g

/-- Both values, or the earlier fault. -/
def both {α β : Type} : Located α → Located β → Located (α × β)
  | .ok a, .ok b => .ok (a, b)
  | .error f, .ok _ => .error f
  | .ok _, .error g => .error g
  | .error f, .error g => .error (earlier f g)

/-- The result with its fault at the place. -/
def placed {α : Type} (place : Nat) : Except DecodeError α → Located α
  | .ok a => .ok a
  | .error e => .error (place, e)

/-- The result without the place of its fault. -/
def value {α : Type} : Located α → Except DecodeError α
  | .ok a => .ok a
  | .error f => .error f.2

end Located

/-- Members of a document, each with its place. -/
abbrev Members (τ : Type) := List (Nat × String × τ)

/-- The value of the field under the name, read by `read`, or its default. The end of
the document is the place after its `size` members. -/
def pick {α τ : Type} (read : τ → Except DecodeError α) (default : Option α) (name : String)
    (members : Members τ) (size : Nat) : Located α :=
  match members.filter fun m => m.2.1 = name with
  | [] =>
    match default with
    | some a => .ok a
    | none => .error (size, .malformed)
  | (i, _, v) :: repeated =>
    match Located.placed i (read v), repeated with
    | .ok a, [] => .ok a
    | .ok _, (j, _) :: _ => .error (j, .malformed)
    | .error f, _ => .error f

/-- A fault at the first member that fails the test. -/
def checkMembers {τ : Type} (ok : String → τ → Bool) (members : Members τ) : Located Unit :=
  match members.find? fun m => !ok m.2.1 m.2.2 with
  | some (i, _) => .error (i, .malformed)
  | none => .ok ()

end FlowRules
