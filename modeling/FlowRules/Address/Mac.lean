import FlowRules.ConfigError
import FlowRules.Text.Pieces

/-!
# MAC addresses

Six octets, written in upper-case hexadecimal with colons between them. Reading
takes either case, leading zeros and one `+` in each octet. A piece that is no octet
is reported before a wrong number of pieces.
-/

namespace FlowRules

/-- A MAC address, the octets in the order of transmission. -/
structure Mac where
  o1 : Octet
  o2 : Octet
  o3 : Octet
  o4 : Octet
  o5 : Octet
  o6 : Octet
  deriving DecidableEq

namespace Mac

/-- The address of zeros. -/
def zero : Mac := ⟨0, 0, 0, 0, 0, 0⟩

/-- The address of every station. -/
def broadcast : Mac := ⟨255, 255, 255, 255, 255, 255⟩

/-- The octets in the order of transmission. -/
def octets (mac : Mac) : List Octet := [mac.o1, mac.o2, mac.o3, mac.o4, mac.o5, mac.o6]

/-- Addresses compare by their octets, the first that differs deciding. -/
instance : Ord Mac := ⟨fun x y =>
  compare (ofBigEndian 48 x.octets) (ofBigEndian 48 y.octets)⟩

/-- Does the address name a group of stations? The lowest bit of the first octet says. -/
def isMulticast (mac : Mac) : Bool := mac.o1.getLsbD 0

/-! ## Text -/

/-- The octets in upper-case hexadecimal with colons between them. -/
def text (mac : Mac) : String :=
  String.intercalate ":" (mac.octets.map fun o => upperHex 2 o.toNat)

/-- The diagnostic form. -/
def inspect (mac : Mac) : String := "MacAddr \x7b inner: " ++ mac.text ++ " \x7d"

/-- The octet a piece writes. -/
def parseOctet (piece : List Char) : Except ConfigError Octet :=
  match hexOctet? piece with
  | some o => .ok o
  | none => .error (.badMac ("bad octet: " ++ String.ofList piece))

/-- The address a text writes. -/
def parse (s : String) : Except ConfigError Mac := do
  match ← (pieces ':' s.toList).mapM parseOctet with
  | [o1, o2, o3, o4, o5, o6] => .ok ⟨o1, o2, o3, o4, o5, o6⟩
  | _ => .error (.badMac s)

end Mac

end FlowRules
