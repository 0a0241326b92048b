import FlowRules.FlowMatch.Basic
import FlowRules.Packet

/-!
# The flow match of a packet

`Packet.flowMatch` describes every known field of a packet, outermost first : the
ingress port, the Ethernet addresses if both are known, the EtherType, and for an
IPv4 packet with addresses and protocol the network layer and what lies above it. An
unknown type of service reads as zero. ICMP types and codes ride in the port fields;
a value that is no octet describes no ICMP.
-/

namespace FlowRules

/-- The value of a port field as an octet. -/
def Port.octet? (p : Port) : Option Octet :=
  if p.toNat ≤ 255 then some (p.setWidth 8) else none

namespace Packet

/-- The key of an ICMP message : an echo with an identifier has one of its own. -/
def icmpKey (type code : Octet) (echoId : Option (BitVec 16)) : FlowKey :=
  match echoId with
  | some id =>
    if type = echoRequest ∨ type = echoReply then .icmpEcho type code id else .icmp type code
  | none => .icmp type code

/-- The key of the layer above IPv4, if it can be described. -/
def upperKey? (p : Packet) (protocol : Octet) : Option FlowKey := do
  match Protocol.ofNumber protocol with
  | .tcp => return .tcp (← p.srcPort) (← p.dstPort)
  | .udp => return .udp (← p.srcPort) (← p.dstPort)
  | .icmp =>
    let type ← (← p.srcPort).octet?
    let code ← (← p.dstPort).octet?
    return icmpKey type code p.echoId
  | _ => none

/-- The keys of IPv4 and the layer above it. -/
def networkKeys (p : Packet) : List FlowKey :=
  match p.source, p.dest, p.protocol with
  | some src, some dst, some protocol =>
    .ipv4 src dst protocol (p.tos.getD 0) :: (p.upperKey? protocol).toList
  | _, _, _ => []

/-- The keys of everything below the network layer. -/
def linkKeys (p : Packet) : List FlowKey :=
  let addresses := match p.srcMac, p.dstMac with
    | some src, some dst => [FlowKey.ethernet src dst]
    | _, _ => []
  (p.ingress.map FlowKey.inPort).toList ++ addresses ++ (p.etherType.map FlowKey.etherType).toList

/-- The match that describes every known field. -/
def flowMatch (p : Packet) : FlowMatch :=
  (p.linkKeys ++ if p.isIpv4 then p.networkKeys else []).foldl FlowMatch.add .empty

end Packet

end FlowRules
