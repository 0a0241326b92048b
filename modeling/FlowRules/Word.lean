import FlowRules.Text.Numeral

/-!
# Words

Packet fields are words of fixed width. An `Octet` has eight bits, a `Port` sixteen.
Octets are read and written as decimal numbers up to 255, and a longer word falls
into its octets from the most significant (`bigEndian`) or the least
(`littleEndian`) one on.
-/

namespace FlowRules

/-- Eight bits. -/
abbrev Octet := BitVec 8

/-- The number of a transport port. -/
abbrev Port := BitVec 16

/-- The decimal numeral of a word. -/
def wordText {w : Nat} (x : BitVec w) : String := decimal x.toNat

/-- The octet written by a decimal numeral. -/
def decimalOctet? (cs : List Char) : Option Octet :=
  (unsigned? 10 255 cs).map (BitVec.ofNat 8)

/-- The octet written by a hexadecimal numeral. -/
def hexOctet? (cs : List Char) : Option Octet :=
  (unsigned? 16 255 cs).map (BitVec.ofNat 8)

/-- The `n` lowest octets of a word, the least significant first. -/
def littleEndian {w : Nat} (n : Nat) (x : BitVec w) : List Octet :=
  (List.range n).map fun i => x.extractLsb' (8 * i) 8

/-- The `n` lowest octets of a word, the most significant first. -/
def bigEndian {w : Nat} (n : Nat) (x : BitVec w) : List Octet := (littleEndian n x).reverse

/-- The word whose octets are given, the most significant first. -/
def ofBigEndian (w : Nat) (octets : List Octet) : BitVec w :=
  BitVec.ofNat w (octets.foldl (fun n o => n * 256 + o.toNat) 0)

end FlowRules
