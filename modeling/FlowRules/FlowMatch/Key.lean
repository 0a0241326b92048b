import FlowRules.Address.Mac
import FlowRules.Address.Ipv4

/-!
# Flow keys

A `FlowKey` fixes some fields of a packet exactly. Most keys can be installed in a
datapath; an echo with its identifier and an ICMP error with the bytes it quotes can
only be matched in software (`FlowKey.softwareOnly`).
-/

namespace FlowRules

/-- The exact value of some fields of a packet. -/
inductive FlowKey where
  /-- The number of the ingress port in the datapath. -/
  | inPort (port : BitVec 32)
  | ethernet (src dst : Mac)
  | etherType (type : BitVec 16)
  /-- The tag control information of 802.1Q. -/
  | vlan (tag : BitVec 16)
  | ipv4 (src dst : Ipv4) (protocol tos : Octet)
  | tcp (src dst : Port)
  | udp (src dst : Port)
  | icmp (type code : Octet)
  | arp (op : BitVec 16) (srcIp dstIp : Ipv4) (srcMac dstMac : Mac)
  /-- The tunnel that a packet came through. -/
  | tunnel (id : BitVec 64) (src dst : Ipv4)
  | priority (value : BitVec 32)
  /-- An echo request or reply with its identifier. -/
  | icmpEcho (type code : Octet) (id : BitVec 16)
  /-- An ICMP error with the leading octets of the packet that it quotes. -/
  | icmpError (type code : Octet) (quoted : List Octet)
  deriving DecidableEq

namespace FlowKey

/-- Can the key only be matched in software? -/
def softwareOnly : FlowKey → Bool
  | icmpEcho .. | icmpError .. => true
  | _ => false

/-- A word of 16 bits as four hexadecimal digits. -/
def hexWord (x : BitVec 16) : String := "0x" ++ hex 4 x.toNat

/-- The name of the key with its fields in parentheses. -/
def text : FlowKey → String
  | inPort port => "in_port(" ++ wordText port ++ ")"
  | ethernet src dst => "eth(src=" ++ src.text ++ ",dst=" ++ dst.text ++ ")"
  | etherType type => "eth_type(" ++ hexWord type ++ ")"
  | vlan tag => "vlan(tci=" ++ hexWord tag ++ ")"
  | ipv4 src dst protocol tos =>
    "ipv4(src=" ++ src.text ++ ",dst=" ++ dst.text ++ ",proto=" ++ wordText protocol ++
      ",tos=" ++ wordText tos ++ ")"
  | tcp src dst => "tcp(src=" ++ wordText src ++ ",dst=" ++ wordText dst ++ ")"
  | udp src dst => "udp(src=" ++ wordText src ++ ",dst=" ++ wordText dst ++ ")"
  | icmp type code => "icmp(type=" ++ wordText type ++ ",code=" ++ wordText code ++ ")"
  | arp op srcIp dstIp srcMac dstMac =>
    "arp(op=" ++ wordText op ++ ",sip=" ++ srcIp.text ++ ",tip=" ++ dstIp.text ++
      ",sha=" ++ srcMac.text ++ ",tha=" ++ dstMac.text ++ ")"
  | tunnel id src dst =>
    "tunnel(id=" ++ wordText id ++ ",src=" ++ src.text ++ ",dst=" ++ dst.text ++ ")"
  | priority value => "priority(" ++ wordText value ++ ")"
  | icmpEcho type code id =>
    "icmp_echo(type=" ++ wordText type ++ ",code=" ++ wordText code ++ ",id=" ++ wordText id ++ ")"
  | icmpError type code quoted =>
    "icmp_error(type=" ++ wordText type ++ ",code=" ++ wordText code ++
      ",data=" ++ decimal quoted.length ++ "B)"

end FlowKey

end FlowRules
