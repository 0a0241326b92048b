import FlowRules.Proofs.FlowMatch.Sharing
import FlowRules.Proofs.Tracking.Key

/-!
# The signature in a flow match

A packet is summarised twice. Its signature says under which keys its flow is tracked, and
its flow match, which is made apart from it, under which key a decision is installed. The
two agree : a packet has the signature if the keys of IPv4 and of the ports in its match are
those of the signature (`Packet.flowSig?_eq_some_iff_keys`), and a match has a key of ports,
always its last, only for packets that have a signature.

The packet with its ends exchanged has the mirrored signature (`Packet.flowSig?_reversed`).
So it is tracked under the reverse key, and the packet itself under the reverse key of that.
-/

namespace FlowRules

/-- Does the key hold the ports of TCP or UDP? -/
def FlowKey.isPorts : FlowKey → Bool
  | tcp .. | udp .. => true
  | _ => false

/-- The key that holds the ports of the signature. -/
def FlowSig.portsKey? (sig : FlowSig) : Option FlowKey :=
  match sig.protocol with
  | .tcp => some (.tcp sig.srcPort sig.dstPort)
  | .udp => some (.udp sig.srcPort sig.dstPort)
  | _ => none

theorem FlowSig.isPorts_of_portsKey? {sig : FlowSig} {key : FlowKey}
    (h : sig.portsKey? = some key) : key.isPorts = true := by
  unfold portsKey? at h
  split at h <;> cases h <;> rfl

theorem FlowKey.layer?_of_isPorts {key : FlowKey} (h : key.isPorts = true) :
    key.layer? = some .upper := by
  cases key <;> first | rfl | cases h

namespace Packet

variable {p : Packet} {sig : FlowSig} {key : FlowKey} {n : Octet}

/-! ## Keys of a match and what they say -/

/-- A layer is described by the key of the match that tells that layer. -/
theorem keyAt?_eq_some_iff {l : Layer} :
    p.keyAt? l = some key ↔ key ∈ p.flowMatch.keys ∧ key.layer? = some l := by
  rw [keys_flowMatch_eq]
  exact part_eq_some_iff (fun _ _ => Option.some.inj) (fun _ _ => layer?_of_keyAt?) l.mem_all

theorem upperKey?_tcp (p : Packet) :
    p.upperKey? Protocol.tcp.number =
      p.srcPort.bind fun src => p.dstPort.map fun dst => .tcp src dst := by
  cases hsrc : p.srcPort <;> cases hdst : p.dstPort <;> simp [upperKey?, hsrc, hdst] <;> rfl

theorem upperKey?_udp (p : Packet) :
    p.upperKey? Protocol.udp.number =
      p.srcPort.bind fun src => p.dstPort.map fun dst => .udp src dst := by
  cases hsrc : p.srcPort <;> cases hdst : p.dstPort <;> simp [upperKey?, hsrc, hdst] <;> rfl

/-- The layer above IPv4 is described by the ports of the signature if they are known, and
if the protocol has any. -/
theorem upperKey?_eq_portsKey?_iff :
    (∃ key, p.upperKey? sig.protocol.number = some key ∧ sig.portsKey? = some key) ↔
      sig.protocol.hasPorts = true ∧ p.srcPort = some sig.srcPort ∧
        p.dstPort = some sig.dstPort := by
  obtain ⟨protocol, source, dest, sp, dp⟩ := sig
  cases protocol with
  | tcp => simp [FlowSig.portsKey?, upperKey?_tcp, Protocol.hasPorts, Option.bind_eq_some_iff]
  | udp => simp [FlowSig.portsKey?, upperKey?_udp, Protocol.hasPorts, Option.bind_eq_some_iff]
  | _ => simp [FlowSig.portsKey?, Protocol.hasPorts]

/-- The packet has the signature if it is described by addresses, protocol and ports of the
signature. -/
theorem flowSig?_eq_some_iff_network? : p.flowSig? = some sig ↔
    p.network? = some (sig.source, sig.dest, sig.protocol.number) ∧
      ∃ key, p.upperKey? sig.protocol.number = some key ∧ sig.portsKey? = some key := by
  rw [flowSig?_eq_some_iff, network?_eq_some_iff, upperKey?_eq_portsKey?_iff]
  constructor
  · rintro ⟨htype, hprotocol, hports, hsource, hdest, hsrc, hdst⟩
    exact ⟨⟨htype, hsource, hdest, hprotocol⟩, hports, hsrc, hdst⟩
  · rintro ⟨⟨htype, hsource, hdest, hprotocol⟩, hports, hsrc, hdst⟩
    exact ⟨htype, hprotocol, hports, hsource, hdest, hsrc, hdst⟩

/-- A key of ports that describes the layer above IPv4 is that of some signature of the
protocol. -/
theorem exists_portsKey? (hn : p.protocol = some n) (h : p.upperKey? n = some key)
    (hkey : key.isPorts = true) (source dest : Ipv4) : ∃ srcPort dstPort,
      (⟨Protocol.ofNumber n, source, dest, srcPort, dstPort⟩ : FlowSig).portsKey? = some key := by
  have hkeyed := keyed_upperKey? hn
  rw [h] at hkeyed
  generalize p.upperLayer = layer at hkeyed
  cases hkeyed with
  | tcp src dst => exact ⟨src, dst, rfl⟩
  | udp src dst => exact ⟨src, dst, rfl⟩
  | icmp => cases hkey
  | echo => cases hkey

/-! ## The signature and the keys -/

/-- The packet has the signature if its match has the keys of IPv4 and of the ports of the
signature. -/
theorem flowSig?_eq_some_iff_mem : p.flowSig? = some sig ↔
    (∃ tos, .ipv4 sig.source sig.dest sig.protocol.number tos ∈ p.flowMatch.keys) ∧
      ∃ key ∈ p.flowMatch.keys, sig.portsKey? = some key := by
  rw [flowSig?_eq_some_iff_network?]
  constructor
  · rintro ⟨hnetwork, key, hupper, hkey⟩
    have hipv4 : p.keyAt? .network =
        some (.ipv4 sig.source sig.dest sig.protocol.number (p.tos.getD 0)) := by
      rw [keyAt?, hnetwork, Option.map_some]
    have hports : p.keyAt? .upper = some key := by rw [keyAt?, hnetwork]; exact hupper
    exact ⟨⟨_, (keyAt?_eq_some_iff.mp hipv4).1⟩, key, (keyAt?_eq_some_iff.mp hports).1, hkey⟩
  · rintro ⟨⟨tos, htos⟩, key, hmem, hkey⟩
    have hipv4 := keyAt?_eq_some_iff.mpr ⟨htos, rfl⟩
    have hports := keyAt?_eq_some_iff.mpr
      ⟨hmem, FlowKey.layer?_of_isPorts (FlowSig.isPorts_of_portsKey? hkey)⟩
    obtain ⟨⟨src, dst, n⟩, hnetwork, hsame⟩ := Option.map_eq_some_iff.mp hipv4
    obtain ⟨rfl, rfl, rfl, -⟩ := FlowKey.ipv4.inj hsame
    rw [keyAt?, hnetwork] at hports
    exact ⟨hnetwork, key, hports, hkey⟩

/-- Above the keys of a tracked packet that speak of the link stand just those two. -/
theorem exists_keys_of_flowSig? (h : p.flowSig? = some sig) : ∃ key,
    p.flowMatch.keys =
      p.linkKeys ++ [.ipv4 sig.source sig.dest sig.protocol.number (p.tos.getD 0), key] ∧
    sig.portsKey? = some key := by
  obtain ⟨hnetwork, key, hupper, hkey⟩ := flowSig?_eq_some_iff_network?.mp h
  obtain ⟨htype, hsource, hdest, hprotocol⟩ := network?_eq_some_iff.mp hnetwork
  refine ⟨key, ?_, hkey⟩
  rw [keys_flowMatch htype, networkKeys, hsource, hdest, hprotocol]
  simp [hupper]

theorem flowSig?_eq_some_iff_keys : p.flowSig? = some sig ↔ ∃ below tos key,
    p.flowMatch.keys =
      below ++ [.ipv4 sig.source sig.dest sig.protocol.number tos, key] ∧
    below.all FlowKey.isLink = true ∧ sig.portsKey? = some key := by
  constructor
  · intro h
    obtain ⟨key, hkeys, hkey⟩ := exists_keys_of_flowSig? h
    exact ⟨p.linkKeys, _, key, hkeys, List.all_eq_true.mpr fun _ => isLink_of_mem_linkKeys, hkey⟩
  · rintro ⟨below, tos, key, hkeys, -, hkey⟩
    rw [flowSig?_eq_some_iff_mem, hkeys]
    exact ⟨⟨tos, by simp⟩, key, by simp, hkey⟩

/-- A packet is tracked if the last key of its match is one of ports. -/
theorem isSome_flowSig?_iff : p.flowSig?.isSome = true ↔
    ∃ key, p.flowMatch.keys.getLast? = some key ∧ key.isPorts = true := by
  constructor
  · intro h
    obtain ⟨sig, hsig⟩ := Option.isSome_iff_exists.mp h
    obtain ⟨key, hkeys, hkey⟩ := exists_keys_of_flowSig? hsig
    exact ⟨key, by simp [hkeys], FlowSig.isPorts_of_portsKey? hkey⟩
  · rintro ⟨key, hlast, hkey⟩
    have hupper := keyAt?_eq_some_iff.mpr
      ⟨List.mem_of_getLast? hlast, FlowKey.layer?_of_isPorts hkey⟩
    obtain ⟨⟨src, dst, n⟩, hnetwork, hports⟩ := Option.bind_eq_some_iff.mp hupper
    obtain ⟨-, -, -, hprotocol⟩ := network?_eq_some_iff.mp hnetwork
    obtain ⟨srcPort, dstPort, hsig⟩ := exists_portsKey? hprotocol hports hkey src dst
    rw [← Protocol.number_ofNumber n] at hnetwork hports
    rw [flowSig?_eq_some_iff_network?.mpr ⟨hnetwork, key, hports, hsig⟩]
    rfl

/-! ## The two summaries -/

/-- The two summaries of a packet agree. It has a signature exactly if the last key of its
match is one of ports; a signature is its own exactly if, above keys that speak of the link,
the match has the keys of IPv4 and of the ports that say what the signature says. The packet
with its ends exchanged has the mirrored signature, if any, so on every device the keys that
the two are tracked under are the reverse of each other. -/
theorem flowSig?_agrees_with_flowMatch (p : Packet) :
    (p.flowSig?.isSome = true ↔
      ∃ key, p.flowMatch.keys.getLast? = some key ∧ key.isPorts = true) ∧
    (∀ sig, p.flowSig? = some sig ↔ ∃ below tos key,
      p.flowMatch.keys =
        below ++ [.ipv4 sig.source sig.dest sig.protocol.number tos, key] ∧
      below.all FlowKey.isLink = true ∧ sig.portsKey? = some key) ∧
    p.reversed.flowSig? = p.flowSig?.map FlowSig.mirror ∧
    ∀ device,
      p.reversed.flowSig?.map (trackingKey device) = p.flowSig?.map (reverseKey device) ∧
      p.flowSig?.map (trackingKey device) = p.reversed.flowSig?.map (reverseKey device) := by
  refine ⟨isSome_flowSig?_iff, fun sig => flowSig?_eq_some_iff_keys, flowSig?_reversed p,
    fun device => ?_⟩
  rw [flowSig?_reversed, Option.map_map, Option.map_map]
  exact ⟨rfl, rfl⟩

end Packet

end FlowRules
