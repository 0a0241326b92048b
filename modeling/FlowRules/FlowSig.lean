import FlowRules.Address.Ipv4
import FlowRules.Protocol

/-!
# Flow signatures

The protocol, addresses and ports that tell one direction of a flow from every other.
`FlowSig.mirror` is the opposite direction, and mirroring twice gives the signature
back (`FlowSig.mirror_mirror`). In the text the protocol is written as its number,
so that signatures of one number read alike.
-/

namespace FlowRules

/-- One direction of a flow. -/
structure FlowSig where
  protocol : Protocol
  source : Ipv4
  dest : Ipv4
  srcPort : Port
  dstPort : Port
  deriving DecidableEq

namespace FlowSig

/-- The opposite direction. -/
def mirror (sig : FlowSig) : FlowSig :=
  ⟨sig.protocol, sig.dest, sig.source, sig.dstPort, sig.srcPort⟩

theorem mirror_mirror (sig : FlowSig) : sig.mirror.mirror = sig := rfl

/-- By protocol, then source, destination, source port and destination port. -/
instance : Ord FlowSig := ⟨fun s t =>
  (compare s.protocol t.protocol).then <|
  (compare s.source t.source).then <|
  (compare s.dest t.dest).then <|
  (compare s.srcPort t.srcPort).then <|
  compare s.dstPort t.dstPort⟩

/-- The protocol number, then address and port of either end. -/
def text (sig : FlowSig) : String :=
  wordText sig.protocol.number ++ "|" ++ sig.source.text ++ ":" ++ wordText sig.srcPort ++
    "|" ++ sig.dest.text ++ ":" ++ wordText sig.dstPort

/-- The diagnostic form. -/
def inspect (sig : FlowSig) : String :=
  "FlowSig \x7b proto: " ++ sig.protocol.inspect ++ ", src: " ++ sig.source.inspect ++
    ", dst: " ++ sig.dest.inspect ++ ", src_port: " ++ wordText sig.srcPort ++
    ", dst_port: " ++ wordText sig.dstPort ++ " \x7d"

end FlowSig

end FlowRules
