import FlowRules.ConfigError
import FlowRules.Text.Pieces

/-!
# IPv4 addresses

An address is four octets, the first the most significant. Its text is the four
octets in decimal with points between them; reading allows leading zeros and one `+`
in each of them, and nothing else. As a number, the address is the word of 32 bits
made of its octets (`Ipv4.toBits`, `Ipv4.ofBits`).
-/

namespace FlowRules

/-- An IPv4 address, the most significant octet first. -/
structure Ipv4 where
  a : Octet
  b : Octet
  c : Octet
  d : Octet
  deriving DecidableEq

namespace Ipv4

/-- The address `0.0.0.0`. -/
def any : Ipv4 := ⟨0, 0, 0, 0⟩

/-- The address `255.255.255.255`. -/
def broadcast : Ipv4 := ⟨255, 255, 255, 255⟩

/-- The octets, the most significant first. -/
def octets (ip : Ipv4) : List Octet := [ip.a, ip.b, ip.c, ip.d]

/-- The word made of the octets. -/
def toBits (ip : Ipv4) : BitVec 32 := ip.a ++ ip.b ++ ip.c ++ ip.d

/-- The address of a word. -/
def ofBits (x : BitVec 32) : Ipv4 :=
  ⟨x.extractLsb' 24 8, x.extractLsb' 16 8, x.extractLsb' 8 8, x.extractLsb' 0 8⟩

/-- Addresses compare as the numbers they are. -/
instance : Ord Ipv4 := ⟨fun x y => compare x.toBits y.toBits⟩

/-- Is the address in `224.0.0.0/4`? -/
def isMulticast (ip : Ipv4) : Bool := 224 ≤ ip.a.toNat && ip.a.toNat < 240

/-! ## Text -/

/-- The octets in decimal with points between them. -/
def text (ip : Ipv4) : String :=
  wordText ip.a ++ "." ++ wordText ip.b ++ "." ++ wordText ip.c ++ "." ++ wordText ip.d

/-- The diagnostic form. -/
def inspect (ip : Ipv4) : String := "Ipv4Addr \x7b inner: " ++ ip.text ++ " \x7d"

/-- The address whose octets are written between points. -/
def ofChars? (cs : List Char) : Option Ipv4 :=
  match (pieces '.' cs).mapM decimalOctet? with
  | some [a, b, c, d] => some ⟨a, b, c, d⟩
  | _ => none

/-- The address a text writes. -/
def parse (s : String) : Except ConfigError Ipv4 :=
  match ofChars? s.toList with
  | some ip => .ok ip
  | none => .error (.badAddress s)

end Ipv4

end FlowRules
