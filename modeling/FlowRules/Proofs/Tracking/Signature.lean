import FlowRules.Packet
import Mathlib.Data.Option.Basic

/-!
# Packets with a signature

A flow is tracked for packets of TCP and UDP over IPv4 of which both addresses and both ports
are known : `Packet.flowSig?_eq_some_iff` says this of the signature, field by field. Among
these protocols the number tells the protocol, and a number that was read from a packet is
the number of the protocol that it names.

The packet with its ends exchanged has the mirrored signature (`Packet.flowSig?_reversed`).
-/

namespace FlowRules

/-! ## Protocols and their numbers -/

theorem Protocol.number_ofNumber (n : Octet) : (ofNumber n).number = n := by
  unfold ofNumber
  grind [number]

theorem Protocol.ofNumber_number {p : Protocol} (h : p.hasPorts = true) :
    ofNumber p.number = p := by
  cases p <;> simp [hasPorts] at h <;> rfl

theorem Protocol.eq_of_number_eq {p q : Protocol} (hp : p.hasPorts = true)
    (hq : q.hasPorts = true) (h : p.number = q.number) : p = q := by
  rw [← ofNumber_number hp, h, ofNumber_number hq]

namespace Packet

variable {p : Packet} {sig : FlowSig}

/-! ## Signatures -/

theorem namedProtocol?_eq_some_iff {protocol : Protocol} (h : protocol.hasPorts = true) :
    p.namedProtocol? = some protocol ↔ p.protocol = some protocol.number := by
  rw [namedProtocol?, Option.map_eq_some_iff]
  constructor
  · rintro ⟨n, hn, rfl⟩
    rw [hn, Protocol.number_ofNumber]
  · intro hn
    exact ⟨_, hn, Protocol.ofNumber_number h⟩

/-- What has to be known of a packet with the signature. -/
theorem flowSig?_eq_some_iff : p.flowSig? = some sig ↔
    p.etherType = some .ipv4 ∧ p.protocol = some sig.protocol.number ∧
      sig.protocol.hasPorts = true ∧ p.source = some sig.source ∧ p.dest = some sig.dest ∧
      p.srcPort = some sig.srcPort ∧ p.dstPort = some sig.dstPort := by
  obtain ⟨protocol, source, dest, sp, dp⟩ := sig
  simp only [flowSig?, Option.bind_eq_bind, Option.bind_eq_some_iff, Option.guard_eq_some',
    Option.pure_def]
  constructor
  · rintro ⟨_, hipv4, protocol', hprotocol, _, hports, source', hsource, dest', hdest, sp', hsp,
      dp', hdp, hsig⟩
    cases hsig
    exact ⟨of_decide_eq_true hipv4, (namedProtocol?_eq_some_iff hports).mp hprotocol, hports,
      hsource, hdest, hsp, hdp⟩
  · rintro ⟨htype, hprotocol, hports, hsource, hdest, hsp, hdp⟩
    exact ⟨(), decide_eq_true htype, protocol, (namedProtocol?_eq_some_iff hports).mpr hprotocol,
      (), hports, source, hsource, dest, hdest, sp, hsp, dp, hdp, rfl⟩

theorem flowSig?_of_other (h : p.etherType ≠ some .ipv4) : p.flowSig? = none := by
  have hipv4 : p.isIpv4 = false := decide_eq_false h
  rw [flowSig?, hipv4]
  rfl

/-- The signature of a packet is of TCP or UDP. -/
theorem hasPorts_of_flowSig? (h : p.flowSig? = some sig) : sig.protocol.hasPorts = true :=
  (flowSig?_eq_some_iff.mp h).2.2.1

/-- Only TCP and UDP have signatures. -/
theorem protocol_of_flowSig? (h : p.flowSig? = some sig) :
    p.protocol = some 6 ∨ p.protocol = some 17 := by
  obtain ⟨-, hprotocol, hports, -⟩ := flowSig?_eq_some_iff.mp h
  rw [hprotocol]
  cases hsig : sig.protocol with
  | tcp => exact Or.inl rfl
  | udp => exact Or.inr rfl
  | _ => simp [hsig, Protocol.hasPorts] at hports

/-- A packet of TCP or UDP whose ends are known has a signature. -/
theorem exists_flowSig? (hipv4 : p.etherType = some .ipv4)
    (hprotocol : p.protocol = some 6 ∨ p.protocol = some 17) {source dest : Ipv4}
    (hsource : p.source = some source) (hdest : p.dest = some dest) {src dst : Port}
    (hsrc : p.srcPort = some src) (hdst : p.dstPort = some dst) :
    ∃ sig, p.flowSig? = some sig := by
  rcases hprotocol with h | h
  · exact ⟨⟨.tcp, source, dest, src, dst⟩,
      flowSig?_eq_some_iff.mpr ⟨hipv4, h, rfl, hsource, hdest, hsrc, hdst⟩⟩
  · exact ⟨⟨.udp, source, dest, src, dst⟩,
      flowSig?_eq_some_iff.mpr ⟨hipv4, h, rfl, hsource, hdest, hsrc, hdst⟩⟩

/-! ## The opposite packet -/

/-- The packet with addresses and ports of its ends exchanged. -/
def reversed (p : Packet) : Packet :=
  { p with source := p.dest, dest := p.source, srcPort := p.dstPort, dstPort := p.srcPort }

theorem flowSig?_reversed_eq_some_iff :
    p.reversed.flowSig? = some sig ↔ p.flowSig? = some sig.mirror := by
  rw [flowSig?_eq_some_iff, flowSig?_eq_some_iff]
  constructor
  · rintro ⟨htype, hprotocol, hports, hsource, hdest, hsrc, hdst⟩
    exact ⟨htype, hprotocol, hports, hdest, hsource, hdst, hsrc⟩
  · rintro ⟨htype, hprotocol, hports, hsource, hdest, hsrc, hdst⟩
    exact ⟨htype, hprotocol, hports, hdest, hsource, hdst, hsrc⟩

/-- The opposite packet has the mirrored signature. -/
theorem flowSig?_reversed (p : Packet) : p.reversed.flowSig? = p.flowSig?.map FlowSig.mirror := by
  apply Option.ext
  intro sig
  rw [flowSig?_reversed_eq_some_iff, Option.map_eq_some_iff]
  constructor
  · intro h
    exact ⟨sig.mirror, h, sig.mirror_mirror⟩
  · rintro ⟨sig, h, rfl⟩
    rwa [FlowSig.mirror_mirror]

end Packet

end FlowRules
