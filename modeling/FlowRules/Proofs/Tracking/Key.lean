import FlowRules.Proofs.Address.Text
import FlowRules.Proofs.Text.Identifier
import FlowRules.Proofs.Tracking.Signature
import FlowRules.Tracking.Cache

/-!
# Tracking keys do not collide

The key of a direction of a flow is text : the device, the protocol number and the two
endpoints, with `|` between them. Identifiers, numbers and addresses are written
without the signs that separate them, so the key can be taken apart again, and equal
keys have equal devices, protocol numbers, addresses and ports (`trackingKey_eq_iff`).
A packet that has a signature is of a protocol known by name, and then the number tells
the protocol : on such signatures the key is injective (`trackingKey_inj`). The key of the
opposite direction is another one, unless both ends of the flow are the same
(`reverseKey_eq_trackingKey_iff`).
-/

namespace FlowRules

/-! ## Keys -/

/-- An address and a port with a colon between them. -/
def endpointText (ip : Ipv4) (port : Port) : List Char :=
  ip.text.toList ++ ':' :: (wordText port).toList

theorem endpointText_inj {x y : Ipv4} {p q : Port} (h : endpointText x p = endpointText y q) :
    x = y ∧ p = q := by
  have hcolon := Ipv4.notMem_text (c := ':') (by decide) (by decide)
  obtain ⟨hip, hport⟩ := append_cons_inj (hcolon x) (hcolon y) h
  exact ⟨Ipv4.text_inj hip, wordText_inj hport⟩

theorem bar_notMem_endpointText (ip : Ipv4) (port : Port) : '|' ∉ endpointText ip port := by
  rw [endpointText, List.mem_append, List.mem_cons]
  rintro (h | h | h)
  · exact Ipv4.notMem_text (by decide) (by decide) ip h
  · exact absurd h (by decide)
  · exact notMem_decimal (by decide) port.toNat h

/-- The parts of a key, which stand between bars. -/
def keyParts (device : DeviceId) (sig : FlowSig) : List (List Char) :=
  [device.text.toList, (wordText sig.protocol.number).toList,
    endpointText sig.source sig.srcPort, endpointText sig.dest sig.dstPort]

theorem toList_trackingKey (device : DeviceId) (sig : FlowSig) :
    (trackingKey device sig).toList = joinPieces '|' (keyParts device sig) := by
  simp [trackingKey, FlowSig.text, keyParts, endpointText, joinPieces]

theorem bar_notMem_keyParts (device : DeviceId) (sig : FlowSig) :
    ∀ p ∈ keyParts device sig, '|' ∉ p := by
  simp only [keyParts, List.forall_mem_cons]
  refine ⟨?_, ?_, ?_, ?_, by simp⟩
  · exact notMem_uuidText (by decide) (by decide) device.bits
  · exact notMem_decimal (by decide) _
  · exact bar_notMem_endpointText _ _
  · exact bar_notMem_endpointText _ _

/-- Keys are equal if the devices, protocol numbers, addresses and ports are. -/
theorem trackingKey_eq_iff {d e : DeviceId} {s t : FlowSig} :
    trackingKey d s = trackingKey e t ↔
      d = e ∧ s.protocol.number = t.protocol.number ∧ s.source = t.source ∧ s.dest = t.dest ∧
        s.srcPort = t.srcPort ∧ s.dstPort = t.dstPort := by
  constructor
  · intro h
    have hlist := congrArg String.toList h
    rw [toList_trackingKey, toList_trackingKey] at hlist
    have hparts := joinPieces_inj (by simp [keyParts]) (by simp [keyParts])
      (bar_notMem_keyParts d s) (bar_notMem_keyParts e t) hlist
    simp only [keyParts, List.cons.injEq, and_true] at hparts
    obtain ⟨hdevice, hnumber, hsrc, hdst⟩ := hparts
    obtain ⟨hsource, hsrcPort⟩ := endpointText_inj hsrc
    obtain ⟨hdest, hdstPort⟩ := endpointText_inj hdst
    have hbits := uuidText_inj hdevice
    exact ⟨congrArg Id.mk hbits, wordText_inj hnumber, hsource, hdest, hsrcPort, hdstPort⟩
  · rintro ⟨rfl, hnumber, hsource, hdest, hsrcPort, hdstPort⟩
    simp [trackingKey, FlowSig.text, hnumber, hsource, hdest, hsrcPort, hdstPort]

/-! ## Signatures of packets -/

/-- On signatures of TCP and UDP the key tells device and signature. -/
theorem trackingKey_inj {d e : DeviceId} {s t : FlowSig} (hs : s.protocol.hasPorts = true)
    (ht : t.protocol.hasPorts = true) (h : trackingKey d s = trackingKey e t) : d = e ∧ s = t := by
  obtain ⟨hdevice, hnumber, hsource, hdest, hsrcPort, hdstPort⟩ := trackingKey_eq_iff.mp h
  refine ⟨hdevice, ?_⟩
  obtain ⟨protocol, source, dest, sp, dp⟩ := s
  obtain ⟨protocol', source', dest', sp', dp'⟩ := t
  rw [FlowSig.mk.injEq]
  exact ⟨Protocol.eq_of_number_eq hs ht hnumber, hsource, hdest, hsrcPort, hdstPort⟩

/-! ## Keys of both directions -/

/-- A direction has the key of its opposite if its ends are the same. -/
theorem reverseKey_eq_trackingKey_iff {d : DeviceId} {s : FlowSig} :
    reverseKey d s = trackingKey d s ↔ s.source = s.dest ∧ s.srcPort = s.dstPort := by
  rw [reverseKey, trackingKey_eq_iff]
  constructor
  · rintro ⟨-, -, -, hends, -, hports⟩
    exact ⟨hends, hports⟩
  · rintro ⟨hends, hports⟩
    exact ⟨rfl, rfl, hends.symm, hends, hports.symm, hports⟩

/-- Tracking keys do not collide : two keys are equal only if the devices, the numbers of the
protocols, the addresses and the ports are. The reverse of the opposite direction is the
direction itself, and a direction is its own reverse only if both its ends are the same. On
the signatures of packets the keys tell device and signature. -/
theorem trackingKeys_faithful (d e : DeviceId) (s t : FlowSig) :
    (trackingKey d s = trackingKey e t ↔
      d = e ∧ s.protocol.number = t.protocol.number ∧ s.source = t.source ∧ s.dest = t.dest ∧
        s.srcPort = t.srcPort ∧ s.dstPort = t.dstPort) ∧
    reverseKey d s.mirror = trackingKey d s ∧
    (reverseKey d s = trackingKey d s ↔ s.source = s.dest ∧ s.srcPort = s.dstPort) ∧
    ∀ p q : Packet, p.flowSig? = some s → q.flowSig? = some t →
      (trackingKey d s = trackingKey e t ↔ d = e ∧ s = t) := by
  refine ⟨trackingKey_eq_iff, congrArg (trackingKey d) s.mirror_mirror,
    reverseKey_eq_trackingKey_iff, fun p q hp hq => ⟨fun h => ?_, ?_⟩⟩
  · exact trackingKey_inj (Packet.hasPorts_of_flowSig? hp) (Packet.hasPorts_of_flowSig? hq) h
  · rintro ⟨rfl, rfl⟩
    rfl

/-- A datagram from some address and port to a server. -/
def datagramFrom (source : Ipv4) (srcPort : Port) : Packet where
  etherType := some .ipv4
  source := some source
  dest := some ⟨10, 0, 0, 1⟩
  protocol := some 17
  srcPort := some srcPort
  dstPort := some 53

/-- Two senders whose addresses and ports have the same digits in the same order. Without
the colon between them they would have one key. -/
theorem datagramFrom_keys_ne :
    (datagramFrom ⟨10, 0, 0, 2⟩ 33).flowSig? =
        some ⟨.udp, ⟨10, 0, 0, 2⟩, ⟨10, 0, 0, 1⟩, 33, 53⟩ ∧
      (datagramFrom ⟨10, 0, 0, 23⟩ 3).flowSig? =
        some ⟨.udp, ⟨10, 0, 0, 23⟩, ⟨10, 0, 0, 1⟩, 3, 53⟩ ∧
      trackingKey ⟨5⟩ ⟨.udp, ⟨10, 0, 0, 2⟩, ⟨10, 0, 0, 1⟩, 33, 53⟩ ≠
        trackingKey ⟨5⟩ ⟨.udp, ⟨10, 0, 0, 23⟩, ⟨10, 0, 0, 1⟩, 3, 53⟩ := by
  obtain ⟨-, -, -, htells⟩ := trackingKeys_faithful ⟨5⟩ ⟨5⟩
    ⟨.udp, ⟨10, 0, 0, 2⟩, ⟨10, 0, 0, 1⟩, 33, 53⟩ ⟨.udp, ⟨10, 0, 0, 23⟩, ⟨10, 0, 0, 1⟩, 3, 53⟩
  refine ⟨rfl, rfl, fun h => ?_⟩
  obtain ⟨-, hsame⟩ := (htells (datagramFrom ⟨10, 0, 0, 2⟩ 33) (datagramFrom ⟨10, 0, 0, 23⟩ 3)
    rfl rfl).mp h
  exact absurd hsame (by decide)

end FlowRules
