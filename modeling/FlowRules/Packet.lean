import FlowRules.Address.Mac
import FlowRules.FlowSig

/-!
# Packets

What is known of a packet. Every field is optional : an ARP frame has no IPv4
addresses, an ICMP packet no transport ports. For ICMP the two port fields hold the
type and the code, and `echoId` the identifier of an echo.

`Packet.flowSig?` is the signature under which the packet's flow is tracked. Only
IPv4 packets of TCP and UDP have one, when both addresses and both ports are known.
-/

namespace FlowRules

/-- The number of an EtherType. -/
abbrev EtherType := BitVec 16

namespace EtherType

/-- The type of an IPv4 packet. -/
def ipv4 : EtherType := 0x0800
/-- The type of an ARP packet. -/
def arp : EtherType := 0x0806
/-- The type of a frame with a VLAN tag. -/
def vlan : EtherType := 0x8100
/-- The type of an IPv6 packet. -/
def ipv6 : EtherType := 0x86DD

end EtherType

/-- The ICMP type of an echo reply. -/
def echoReply : Octet := 0
/-- The ICMP type of an echo request. -/
def echoRequest : Octet := 8

/-- What is known of a packet. -/
structure Packet where
  ingress : Option (BitVec 32) := none
  srcMac : Option Mac := none
  dstMac : Option Mac := none
  etherType : Option EtherType := none
  source : Option Ipv4 := none
  dest : Option Ipv4 := none
  protocol : Option Octet := none
  tos : Option Octet := none
  srcPort : Option Port := none
  dstPort : Option Port := none
  echoId : Option (BitVec 16) := none
  deriving DecidableEq

namespace Packet

/-- Is it known to be an IPv4 packet? -/
def isIpv4 (p : Packet) : Bool := p.etherType = some EtherType.ipv4

/-- The protocol, by name if it has one. -/
def namedProtocol? (p : Packet) : Option Protocol := p.protocol.map Protocol.ofNumber

/-- The signature under which the packet's flow is tracked. -/
def flowSig? (p : Packet) : Option FlowSig := do
  guard p.isIpv4
  let protocol ← p.namedProtocol?
  guard protocol.hasPorts
  return ⟨protocol, ← p.source, ← p.dest, ← p.srcPort, ← p.dstPort⟩

end Packet

end FlowRules
