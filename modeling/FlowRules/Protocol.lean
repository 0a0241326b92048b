import FlowRules.Word

/-!
# IP protocols

The protocols with a name of their own, and every other one by its number. A number
that has a name can also be given by number; the two then differ, although they have
the same number (`Protocol.number`). A number read from a packet always takes the
name (`Protocol.ofNumber`).
-/

namespace FlowRules

/-- An IP protocol. -/
inductive Protocol where
  | icmp
  | igmp
  | tcp
  | udp
  | icmpv6
  | other (number : Octet)
  deriving DecidableEq

namespace Protocol

/-- The protocol number. -/
def number : Protocol → Octet
  | icmp => 1
  | igmp => 2
  | tcp => 6
  | udp => 17
  | icmpv6 => 58
  | other n => n

/-- The protocol of a number, by name if it has one. -/
def ofNumber (n : Octet) : Protocol :=
  if n = 1 then icmp
  else if n = 2 then igmp
  else if n = 6 then tcp
  else if n = 17 then udp
  else if n = 58 then icmpv6
  else other n

/-- The protocol assumed where none is known. -/
def unspecified : Protocol := other 255

/-- Does the protocol carry transport ports? -/
def hasPorts : Protocol → Bool
  | tcp | udp => true
  | _ => false

/-- The named protocols in their order, then the others. -/
def rank : Protocol → Nat
  | icmp => 0
  | igmp => 1
  | tcp => 2
  | udp => 3
  | icmpv6 => 4
  | other n => 5 + n.toNat

/-- Named protocols come first, in their order, and the others by number. -/
instance : Ord Protocol := ⟨fun p q => compare p.rank q.rank⟩

/-- The name, or else the number. -/
def text : Protocol → String
  | icmp => "ICMP"
  | igmp => "IGMP"
  | tcp => "TCP"
  | udp => "UDP"
  | icmpv6 => "ICMPv6"
  | other n => wordText n

/-- The diagnostic form, which tells a number from a name. -/
def inspect : Protocol → String
  | other n => "Unknown(" ++ wordText n ++ ")"
  | p => p.text

end Protocol

end FlowRules
