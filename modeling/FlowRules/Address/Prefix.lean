import FlowRules.Address.Ipv4

/-!
# IPv4 networks

A `Network` is an address with a prefix length of at most 32, the number of its
leading bits that a member shares. The remaining bits of the address are kept as
they were configured and play no part in `Network.contains`. Lengths above 32 are
refused where a length is made (`PrefixLen.ofOctet`), so the type holds no other.
-/

namespace FlowRules

/-- The number of leading bits of an address that matter. -/
structure PrefixLen where
  val : Nat
  le : val ≤ 32
  deriving DecidableEq

namespace PrefixLen

/-- No bit matters. -/
def zero : PrefixLen := ⟨0, by decide⟩

/-- Every bit matters. -/
def full : PrefixLen := ⟨32, by decide⟩

/-- The length, unless it is above 32. -/
def ofOctet (n : Octet) : Except ConfigError PrefixLen :=
  if h : n.toNat ≤ 32 then .ok ⟨n.toNat, h⟩ else .error (.badPrefixLen n)

/-- The length as an octet. -/
def toOctet (len : PrefixLen) : Octet := BitVec.ofNat 8 len.val

/-- The word whose leading bits, as many as the length, are set. -/
def maskBits (len : PrefixLen) : BitVec 32 := BitVec.allOnes 32 <<< (32 - len.val)

/-- The subnet mask of the length. -/
def netmask (len : PrefixLen) : Ipv4 := Ipv4.ofBits len.maskBits

/-- The diagnostic form. -/
def inspect (len : PrefixLen) : String := "Ipv4PrefixLen(" ++ decimal len.val ++ ")"

theorem toNat_toOctet (len : PrefixLen) : len.toOctet.toNat = len.val :=
  Nat.mod_eq_of_lt (Nat.lt_of_le_of_lt len.le (by decide))

theorem ofOctet_toOctet (len : PrefixLen) : ofOctet len.toOctet = .ok len := by
  simp [ofOctet, toNat_toOctet, len.le]

end PrefixLen

/-- The address with the bits after the prefix cleared. -/
def Ipv4.mask (ip : Ipv4) (len : PrefixLen) : Ipv4 := Ipv4.ofBits (ip.toBits &&& len.maskBits)

/-- An address with the number of its leading bits that members share. -/
structure Network where
  address : Ipv4
  len : PrefixLen
  deriving DecidableEq

namespace Network

/-- The network of an address and a length, unless the length is above 32. -/
def make (address : Ipv4) (len : Octet) : Except ConfigError Network := do
  return ⟨address, ← PrefixLen.ofOctet len⟩

/-- Does the address share the leading bits of the network? -/
def contains (net : Network) (ip : Ipv4) : Bool := ip.mask net.len = net.address.mask net.len

/-! ## Text -/

/-- The address, a slash and the length. -/
def text (net : Network) : String := net.address.text ++ "/" ++ decimal net.len.val

/-- The diagnostic form. -/
def inspect (net : Network) : String :=
  "Ipv4Prefix \x7b addr: " ++ net.address.inspect ++ ", prefix_len: " ++ net.len.inspect ++ " \x7d"

/-- The network a text writes : an address, a slash and a length. The address is
read first, and a length that is no octet is the fault of the whole text. -/
def parse (s : String) : Except ConfigError Network :=
  match cut '/' s.toList with
  | none => .error (.badAddress ("no '/' in " ++ s))
  | some (left, right) => do
    let address ← Ipv4.parse (String.ofList left)
    match decimalOctet? right with
    | none => .error (.badAddress s)
    | some len => make address len

end Network

end FlowRules
