import FlowRules.Crc32
import FlowRules.FlowMatch.Basic

/-!
# The checksum of a flow match

Flows are put into buckets by a checksum of their keys. It is taken over the number
of keys, then for each key the number of its kind and its fields in order. A word is
written in its own width, the least significant octet first. An address and the
octets that an ICMP error quotes are written after their number of octets.
-/

namespace FlowRules

/-- A count as eight octets, the least significant first. -/
def countOctets (n : Nat) : List Octet := littleEndian 8 (BitVec.ofNat 64 n)

/-- Octets after their number. -/
def countedOctets (octets : List Octet) : List Octet := countOctets octets.length ++ octets

namespace FlowKey

/-- The number of the key's kind. -/
def kindIndex : FlowKey → Nat
  | inPort .. => 0
  | ethernet .. => 1
  | etherType .. => 2
  | vlan .. => 3
  | ipv4 .. => 4
  | tcp .. => 5
  | udp .. => 6
  | icmp .. => 7
  | arp .. => 8
  | tunnel .. => 9
  | priority .. => 10
  | icmpEcho .. => 11
  | icmpError .. => 12

/-- The fields of the key. -/
def fieldOctets : FlowKey → List Octet
  | inPort port => littleEndian 4 port
  | ethernet src dst => countedOctets src.octets ++ countedOctets dst.octets
  | etherType type => littleEndian 2 type
  | vlan tag => littleEndian 2 tag
  | ipv4 src dst protocol tos =>
    countedOctets src.octets ++ countedOctets dst.octets ++ [protocol, tos]
  | tcp src dst => littleEndian 2 src ++ littleEndian 2 dst
  | udp src dst => littleEndian 2 src ++ littleEndian 2 dst
  | icmp type code => [type, code]
  | arp op srcIp dstIp srcMac dstMac =>
    littleEndian 2 op ++ countedOctets srcIp.octets ++ countedOctets dstIp.octets ++
      countedOctets srcMac.octets ++ countedOctets dstMac.octets
  | tunnel id src dst => littleEndian 8 id ++ countedOctets src.octets ++ countedOctets dst.octets
  | priority value => littleEndian 4 value
  | icmpEcho type code id => [type, code] ++ littleEndian 2 id
  | icmpError type code quoted => [type, code] ++ countedOctets quoted

/-- The kind of the key, then its fields. -/
def digest (key : FlowKey) : List Octet := countOctets key.kindIndex ++ key.fieldOctets

end FlowKey

namespace FlowMatch

/-- The octets that the checksum is taken over. -/
def digest (m : FlowMatch) : List Octet :=
  countOctets m.keys.length ++ m.keys.flatMap FlowKey.digest

/-- The checksum of the keys. -/
def checksum (m : FlowMatch) : BitVec 32 := Crc32.checksum m.digest

end FlowMatch

end FlowRules
