import FlowRules.Condition.Basic
import FlowRules.FlowMatch.Basic
import FlowRules.Layout.Basic
import FlowRules.Packet
import FlowRules.Tracking.ExpiringCache

/-!
# The layouts of what is stored

The layout of every type that is written and read, with the names that documents use.
All fields of a condition may be left out and then have their defaults, as may those
of a cache's settings and the conditions of a set. The fields of a packet may be left
out of a document that names its fields.
-/

namespace FlowRules

/-- The version of these layouts. Documents do not carry it. -/
def layoutVersion : Nat := 3

open Layout (via list dict record choice word)
open Fields (needed optional)

/-! ## Addresses and identifiers -/

/-- An IPv4 address as its octets. -/
def Ipv4.layout : Layout Ipv4 :=
  record "Ipv4Addr" (needed "inner" none (.octets 4) .nil)
    |> via (fun (v, _) => ⟨v[0], v[1], v[2], v[3]⟩) (fun ip => (#v[ip.a, ip.b, ip.c, ip.d], ()))
      fun _ => rfl

/-- A MAC address as its octets. -/
def Mac.layout : Layout Mac :=
  record "MacAddr" (needed "inner" none (.octets 6) .nil)
    |> via (fun (v, _) => ⟨v[0], v[1], v[2], v[3], v[4], v[5]⟩)
      (fun m => (#v[m.o1, m.o2, m.o3, m.o4, m.o5, m.o6], ())) fun _ => rfl

/-- A network as its address and its prefix length. -/
def Network.layout : Layout Network :=
  record "Ipv4Prefix" (
    needed "addr" none Ipv4.layout <| needed "prefix_len" none .prefixLen .nil)
    |> via (fun (address, len, _) => ⟨address, len⟩) (fun net => (net.address, net.len, ()))
      fun _ => rfl

/-- An identifier. -/
def Id.layout {kind : Entity} : Layout (Id kind) := via Id.mk Id.bits (fun _ => rfl) .uuid

/-- A set of identifiers as a list of them. -/
def Id.setLayout {kind : Entity} : Layout (KeySet (Id kind)) :=
  via KeySet.ofList Table.keys KeySet.ofList_keys (list Id.layout)

/-! ## Conditions -/

/-- A flag that is off where it is left out. -/
def Fields.flag {β : Type} (name : String) (rest : Fields β) : Fields (Bool × β) :=
  needed name (some false) .bool rest

/-- A clause as its value and its inversion flag. -/
def Fields.clause {α β : Type} (name inverted : String) (l : Layout α) (rest : Fields β) :
    Fields (Option α × Bool × β) :=
  optional name true l <| .flag inverted rest

/-- A clause about a port as the ends of its range and its inversion flag. -/
def Fields.portClause {β : Type} (name : String) (rest : Fields β) :
    Fields (Port × Port × Bool × β) :=
  needed (name ++ "_start") (some 0) (word 16) <|
  needed (name ++ "_end") (some 65535) (word 16) <| .flag (name ++ "_inv") rest

open Fields (flag clause portClause)

/-- A condition, with each clause written field by field. -/
def Condition.layout : Layout Condition :=
  record "Condition" (
    flag "conjunction_inv" <|
    clause "in_port_ids" "in_port_inv" Id.setLayout <|
    clause "out_port_ids" "out_port_inv" Id.setLayout <|
    clause "port_group" "port_group_inv" Id.layout <|
    clause "nw_tos" "nw_tos_inv" (word 8) <|
    clause "nw_proto" "nw_proto_inv" (word 8) <|
    clause "nw_src_ip" "nw_src_inv" Network.layout <|
    clause "nw_dst_ip" "nw_dst_inv" Network.layout <|
    portClause "tp_src" <|
    portClause "tp_dst" <|
    flag "match_forward_flow" <| flag "match_return_flow" .nil)
  |> via
    (fun (negated, i, iInv, o, oInv, g, gInv, t, tInv, p, pInv, s, sInv, d, dInv,
        s0, s1, sPortsInv, d0, d1, dPortsInv, forwardFlow, returnFlow, _) =>
      { negated, inPorts := ⟨i, iInv⟩, outPorts := ⟨o, oInv⟩, group := ⟨g, gInv⟩,
        tos := ⟨t, tInv⟩, protocol := ⟨p, pInv⟩, source := ⟨s, sInv⟩, dest := ⟨d, dInv⟩,
        srcPorts := ⟨⟨s0, s1⟩, sPortsInv⟩, dstPorts := ⟨⟨d0, d1⟩, dPortsInv⟩,
        forwardFlow, returnFlow })
    (fun c =>
      (c.negated, c.inPorts.wanted, c.inPorts.inverted, c.outPorts.wanted, c.outPorts.inverted,
        c.group.wanted, c.group.inverted, c.tos.wanted, c.tos.inverted,
        c.protocol.wanted, c.protocol.inverted, c.source.wanted, c.source.inverted,
        c.dest.wanted, c.dest.inverted, c.srcPorts.range.first, c.srcPorts.range.last,
        c.srcPorts.inverted, c.dstPorts.range.first, c.dstPorts.range.last,
        c.dstPorts.inverted, c.forwardFlow, c.returnFlow, ()))
    fun _ => rfl

/-- Conditions under their names. -/
abbrev ConditionSet := Table String Condition

/-- A set of conditions as a dictionary. -/
def conditionSetLayout : Layout ConditionSet :=
  record "ConditionSet" (needed "conditions" (some []) (dict Condition.layout) .nil)
    |> via (fun (entries, _) => Table.ofList entries) (fun set => (set.entries, ()))
      Table.ofList_entries

/-! ## Packets and flows -/

/-- A protocol as its name, or its number under the name `Unknown`. -/
def Protocol.layout : Layout Protocol :=
  choice (.cons "ICMP" .nothing <| .cons "IGMP" .nothing <| .cons "TCP" .nothing <|
    .cons "UDP" .nothing <| .cons "ICMPv6" .nothing <| .cons "Unknown" (.value (word 8)) .nil)
  |> via
    (fun
      | .inl _ => .icmp
      | .inr (.inl _) => .igmp
      | .inr (.inr (.inl _)) => .tcp
      | .inr (.inr (.inr (.inl _))) => .udp
      | .inr (.inr (.inr (.inr (.inl _)))) => .icmpv6
      | .inr (.inr (.inr (.inr (.inr (.inl n))))) => .other n)
    (fun
      | .icmp => .inl ()
      | .igmp => .inr (.inl ())
      | .tcp => .inr (.inr (.inl ()))
      | .udp => .inr (.inr (.inr (.inl ())))
      | .icmpv6 => .inr (.inr (.inr (.inr (.inl ()))))
      | .other n => .inr (.inr (.inr (.inr (.inr (.inl n))))))
    fun p => by cases p <;> rfl

/-- A packet as its known fields. -/
def Packet.layout : Layout Packet :=
  let known {α β : Type} (name : String) (l : Layout α) (rest : Fields β) :
      Fields (Option α × β) := optional name false l rest
  record "PacketDescriptor" (
    known "in_port" (word 32) <| known "dl_src" Mac.layout <| known "dl_dst" Mac.layout <|
    known "ether_type" (word 16) <| known "nw_src" Ipv4.layout <| known "nw_dst" Ipv4.layout <|
    known "nw_proto" (word 8) <| known "nw_tos" (word 8) <| known "tp_src" (word 16) <|
    known "tp_dst" (word 16) <| known "icmp_id" (word 16) .nil)
  |> via
    (fun (ingress, srcMac, dstMac, etherType, source, dest, protocol, tos, srcPort, dstPort,
        echoId, _) =>
      { ingress, srcMac, dstMac, etherType, source, dest, protocol, tos, srcPort, dstPort,
        echoId })
    (fun p => (p.ingress, p.srcMac, p.dstMac, p.etherType, p.source, p.dest, p.protocol, p.tos,
      p.srcPort, p.dstPort, p.echoId, ()))
    fun _ => rfl

/-- A field that must be present. -/
def Fields.required {α β : Type} (name : String) (l : Layout α) (rest : Fields β) :
    Fields (α × β) :=
  needed name none l rest

open Fields (required)

/-- A flow signature. -/
def FlowSig.layout : Layout FlowSig :=
  record "FlowSig" (
    required "proto" Protocol.layout <| required "src" Ipv4.layout <| required "dst" Ipv4.layout <|
    required "src_port" (word 16) <| required "dst_port" (word 16) .nil)
  |> via (fun (protocol, source, dest, srcPort, dstPort, _) =>
      ⟨protocol, source, dest, srcPort, dstPort⟩)
    (fun s => (s.protocol, s.source, s.dest, s.srcPort, s.dstPort, ())) fun _ => rfl

/-- A flow key as its kind and its fields. -/
def FlowKey.layout : Layout FlowKey :=
  let ends {α : Type} (l : Layout α) : Payload (α × α × Unit) :=
    .fields (required "src" l <| required "dst" l .nil)
  choice (
    .cons "InPort" (.value (word 32)) <|
    .cons "Ethernet" (ends Mac.layout) <|
    .cons "EtherType" (.value (word 16)) <|
    .cons "Vlan" (.value (word 16)) <|
    .cons "Ipv4" (.fields (required "src" Ipv4.layout <| required "dst" Ipv4.layout <|
      required "proto" (word 8) <| required "tos" (word 8) .nil)) <|
    .cons "Tcp" (ends (word 16)) <|
    .cons "Udp" (ends (word 16)) <|
    .cons "Icmp" (.fields (required "ty" (word 8) <| required "code" (word 8) .nil)) <|
    .cons "Arp" (.fields (required "op" (word 16) <| required "sip" Ipv4.layout <|
      required "tip" Ipv4.layout <| required "sha" Mac.layout <| required "tha" Mac.layout .nil)) <|
    .cons "Tunnel" (.fields (required "id" (word 64) <| required "src" Ipv4.layout <|
      required "dst" Ipv4.layout .nil)) <|
    .cons "Priority" (.value (word 32)) <|
    .cons "IcmpEcho" (.fields (required "ty" (word 8) <| required "code" (word 8) <|
      required "id" (word 16) .nil)) <|
    .cons "IcmpError" (.fields (required "ty" (word 8) <| required "code" (word 8) <|
      required "data" (list (word 8)) .nil)) .nil)
  |> via
    (fun
      | .inl port => .inPort port
      | .inr (.inl (src, dst, _)) => .ethernet src dst
      | .inr (.inr (.inl type)) => .etherType type
      | .inr (.inr (.inr (.inl tag))) => .vlan tag
      | .inr (.inr (.inr (.inr (.inl (src, dst, protocol, tos, _))))) => .ipv4 src dst protocol tos
      | .inr (.inr (.inr (.inr (.inr (.inl (src, dst, _)))))) => .tcp src dst
      | .inr (.inr (.inr (.inr (.inr (.inr (.inl (src, dst, _))))))) => .udp src dst
      | .inr (.inr (.inr (.inr (.inr (.inr (.inr (.inl (type, code, _)))))))) => .icmp type code
      | .inr (.inr (.inr (.inr (.inr (.inr (.inr (.inr (.inl (op, sip, tip, sha, tha, _))))))))) =>
        .arp op sip tip sha tha
      | .inr (.inr (.inr (.inr (.inr (.inr (.inr (.inr (.inr (.inl (id, src, dst, _)))))))))) =>
        .tunnel id src dst
      | .inr (.inr (.inr (.inr (.inr (.inr (.inr (.inr (.inr (.inr (.inl value)))))))))) =>
        .priority value
      | .inr (.inr (.inr (.inr (.inr (.inr (.inr (.inr (.inr (.inr (.inr
          (.inl (type, code, id, _)))))))))))) => .icmpEcho type code id
      | .inr (.inr (.inr (.inr (.inr (.inr (.inr (.inr (.inr (.inr (.inr
          (.inr (.inl (type, code, quoted, _))))))))))))) => .icmpError type code quoted)
    (fun
      | .inPort port => .inl port
      | .ethernet src dst => .inr (.inl (src, dst, ()))
      | .etherType type => .inr (.inr (.inl type))
      | .vlan tag => .inr (.inr (.inr (.inl tag)))
      | .ipv4 src dst protocol tos => .inr (.inr (.inr (.inr (.inl (src, dst, protocol, tos, ())))))
      | .tcp src dst => .inr (.inr (.inr (.inr (.inr (.inl (src, dst, ()))))))
      | .udp src dst => .inr (.inr (.inr (.inr (.inr (.inr (.inl (src, dst, ())))))))
      | .icmp type code => .inr (.inr (.inr (.inr (.inr (.inr (.inr (.inl (type, code, ()))))))))
      | .arp op sip tip sha tha =>
        .inr (.inr (.inr (.inr (.inr (.inr (.inr (.inr (.inl (op, sip, tip, sha, tha, ())))))))))
      | .tunnel id src dst =>
        .inr (.inr (.inr (.inr (.inr (.inr (.inr (.inr (.inr (.inl (id, src, dst, ()))))))))))
      | .priority value =>
        .inr (.inr (.inr (.inr (.inr (.inr (.inr (.inr (.inr (.inr (.inl value))))))))))
      | .icmpEcho type code id =>
        .inr (.inr (.inr (.inr (.inr (.inr (.inr (.inr (.inr (.inr (.inr
          (.inl (type, code, id, ()))))))))))))
      | .icmpError type code quoted =>
        .inr (.inr (.inr (.inr (.inr (.inr (.inr (.inr (.inr (.inr (.inr
          (.inr (.inl (type, code, quoted, ()))))))))))))))
    fun k => by cases k <;> rfl

/-- A flow match as its keys. Whether only software can match it is worked out anew. -/
def FlowMatch.layout : Layout FlowMatch :=
  via FlowMatch.ofKeys FlowMatch.keys FlowMatch.ofKeys_keys (list FlowKey.layout)

/-- The settings of a cache. -/
def CacheConfig.layout : Layout CacheConfig :=
  record "ConnTrackCfg" (
    needed "name" (some ({} : CacheConfig).name) .text <|
    needed "expiration_secs" (some ({} : CacheConfig).expirationSecs) (word 64) .nil)
  |> via (fun (name, secs, _) => ⟨name, secs⟩) (fun c => (c.name, c.expirationSecs, ()))
    fun _ => rfl

end FlowRules
