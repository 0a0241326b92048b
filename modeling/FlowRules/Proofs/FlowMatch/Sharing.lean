import FlowRules.Proofs.FlowMatch.Complete
import FlowRules.Proofs.Text.Pieces
import Mathlib.Data.List.Basic
import Mathlib.Data.Option.Basic

/-!
# Packets that share a flow match

The keys of a match stand in the order of the layers, with at most one for each
(`Packet.keys_flowMatch_eq`). Each tells its layer (`FlowKey.layer?`), so two packets have
the same match exactly if they have the same key, or none, at every layer.

What the keys say is told without them by `Packet.SharesMatch`. Its last part is the layer
above IPv4, `Packet.upperLayer`, which is known for TCP, UDP and ICMP only. `UpperLayer.Keyed`
lists the key for each thing that it can say : next to the protocol, either determines the
other (`UpperLayer.Keyed.key_eq_iff`).
-/

namespace FlowRules

/-! ## The layers that keys describe -/

/-- The layers that a packet is described at, outermost first. -/
inductive Layer where
  | ingress
  | ethernet
  | etherType
  | network
  | upper
  deriving DecidableEq

/-- The layers in the order of their keys. -/
def Layer.all : List Layer := [.ingress, .ethernet, .etherType, .network, .upper]

theorem Layer.mem_all (l : Layer) : l ∈ all := by cases l <;> decide

/-- The layer that the key describes, if packets are described by such keys. -/
def FlowKey.layer? : FlowKey → Option Layer
  | inPort .. => some .ingress
  | ethernet .. => some .ethernet
  | etherType .. => some .etherType
  | ipv4 .. => some .network
  | tcp .. | udp .. | icmp .. | icmpEcho .. => some .upper
  | vlan .. | arp .. | tunnel .. | priority .. | icmpError .. => none

theorem FlowKey.eq_upper_of_softwareOnly {key : FlowKey} {l : Layer}
    (h : key.softwareOnly = true) (hl : key.layer? = some l) : l = .upper := by
  cases key <;> simp_all [softwareOnly, layer?]

/-- What is said of the layer above IPv4, next to the protocol. -/
inductive UpperLayer where
  | ports (src dst : Port)
  | icmp (type code : Port) (echoId : Option (BitVec 16))
  | undescribed
  deriving DecidableEq

/-- The layer above a protocol is described by the key, if by any. -/
inductive UpperLayer.Keyed : Octet → UpperLayer → Option FlowKey → Prop where
  | tcp (src dst : Port) : Keyed 6 (.ports src dst) (some (.tcp src dst))
  | udp (src dst : Port) : Keyed 17 (.ports src dst) (some (.udp src dst))
  | icmp (type code : Octet) :
    Keyed 1 (.icmp (type.setWidth 16) (code.setWidth 16) none) (some (.icmp type code))
  | echo (type code : Octet) (id : BitVec 16) :
    Keyed 1 (.icmp (type.setWidth 16) (code.setWidth 16) (some id))
      (some (.icmpEcho type code id))
  | undescribed (protocol : Octet) : Keyed protocol .undescribed none

theorem Port.setWidth_inj {x y : Octet} : x.setWidth 16 = y.setWidth 16 ↔ x = y := by
  constructor
  · intro h
    simpa using congrArg (BitVec.setWidth 8) h
  · intro h
    rw [h]

/-- The key determines what is said of the layer, and is determined by it. -/
theorem UpperLayer.Keyed.key_eq_iff {n : Octet} {a b : UpperLayer} {j k : Option FlowKey}
    (ha : Keyed n a j) (hb : Keyed n b k) : j = k ↔ a = b := by
  cases ha <;> cases hb <;> simp [Port.setWidth_inj]

theorem UpperLayer.Keyed.layer?_eq {n : Octet} {layer : UpperLayer} {key? : Option FlowKey}
    {key : FlowKey} (h : Keyed n layer key?) (hkey : key? = some key) :
    key.layer? = some .upper := by
  cases h <;> cases hkey <;> rfl

/-- Only the key of an echo with its identifier is matched in software. -/
theorem UpperLayer.Keyed.softwareOnly_iff {n : Octet} {layer : UpperLayer}
    {key? : Option FlowKey} (h : Keyed n layer key?) :
    (∃ key, key? = some key ∧ key.softwareOnly = true) ↔
      ∃ type code id, layer = .icmp type code (some id) := by
  cases h <;> simp [FlowKey.softwareOnly]

namespace Packet

variable {p q : Packet} {n : Octet}

/-! ## The layer above IPv4 -/

/-- What is said of the layer above IPv4 : the ports of TCP and UDP, if both are known, and
the type and the code of ICMP, if both are octets, with the identifier of an echo. -/
def upperLayer (p : Packet) : UpperLayer :=
  match p.protocol, p.srcPort, p.dstPort with
  | some protocol, some src, some dst =>
    if protocol = 6 ∨ protocol = 17 then .ports src dst
    else if protocol = 1 then
      if src.toNat ≤ 255 ∧ dst.toNat ≤ 255 then
        .icmp src dst (if src = 0 ∨ src = 8 then p.echoId else none)
      else .undescribed
    else .undescribed
  | _, _, _ => .undescribed

theorem upperKey?_of_unknown (h : p.srcPort = none ∨ p.dstPort = none) :
    p.upperKey? n = none := by
  unfold upperKey?
  rcases h with h | h <;> split <;> simp [h]

theorem upperLayer_of_unknown (h : p.srcPort = none ∨ p.dstPort = none) :
    p.upperLayer = .undescribed := by
  unfold upperLayer
  rcases h with h | h <;> split <;> simp_all

theorem upperKey?_of_ne (htcp : n ≠ 6) (hudp : n ≠ 17) (hicmp : n ≠ 1) : p.upperKey? n = none := by
  unfold upperKey? Protocol.ofNumber
  grind

/-- An ICMP message is described if its type and its code are octets. -/
theorem keyed_icmp (src dst : Port) (echoId : Option (BitVec 16)) :
    UpperLayer.Keyed 1
      (if src.toNat ≤ 255 ∧ dst.toNat ≤ 255 then
        .icmp src dst (if src = 0 ∨ src = 8 then echoId else none) else .undescribed)
      (do
        let type ← src.octet?
        let code ← dst.octet?
        return icmpKey type code echoId) := by
  by_cases hoctets : src.toNat ≤ 255 ∧ dst.toNat ≤ 255
  · obtain ⟨type, htype⟩ := Port.exists_octet hoctets.1
    obtain ⟨code, hcode⟩ := Port.exists_octet hoctets.2
    rw [if_pos hoctets, htype, hcode]
    rw [Port.octet?_eq_some_iff] at htype hcode
    subst htype hcode
    have hecho : (type.setWidth 16 = (0 : Port) ∨ type.setWidth 16 = (8 : Port)) ↔
        type = echoRequest ∨ type = echoReply :=
      (or_congr (Port.setWidth_inj (y := 0)) (Port.setWidth_inj (y := 8))).trans or_comm
    simp only [hecho]
    cases echoId with
    | none =>
      rw [ite_self]
      exact .icmp type code
    | some id =>
      by_cases h : type = echoRequest ∨ type = echoReply
      · rw [if_pos h]
        simpa [icmpKey, h] using UpperLayer.Keyed.echo type code id
      · rw [if_neg h]
        simpa [icmpKey, h] using UpperLayer.Keyed.icmp type code
  · rw [if_neg hoctets]
    rcases not_and_or.mp hoctets with h | h
    · rw [show src.octet? = none from if_neg h]
      exact .undescribed 1
    · rw [show dst.octet? = none from if_neg h]
      cases src.octet? <;> exact .undescribed 1

/-- What is said of the layer above IPv4 is described by its key. -/
theorem keyed_upperKey? (hn : p.protocol = some n) :
    UpperLayer.Keyed n p.upperLayer (p.upperKey? n) := by
  by_cases hports : p.srcPort = none ∨ p.dstPort = none
  · rw [upperLayer_of_unknown hports, upperKey?_of_unknown hports]
    exact .undescribed n
  obtain ⟨hsrc, hdst⟩ := not_or.mp hports
  obtain ⟨src, hsrc⟩ := Option.ne_none_iff_exists'.mp hsrc
  obtain ⟨dst, hdst⟩ := Option.ne_none_iff_exists'.mp hdst
  rw [upperLayer, hn, hsrc, hdst]
  -- With both fields known, only the number of the protocol decides which key it is.
  by_cases htcp : n = 6
  · subst htcp
    rw [upperKey?, hsrc, hdst]
    exact .tcp src dst
  by_cases hudp : n = 17
  · subst hudp
    rw [upperKey?, hsrc, hdst]
    exact .udp src dst
  by_cases hicmp : n = 1
  · subst hicmp
    rw [upperKey?, hsrc, hdst]
    exact keyed_icmp src dst p.echoId
  · rw [upperKey?_of_ne htcp hudp hicmp]
    have hlayer : ¬(n = 6 ∨ n = 17) := not_or.mpr ⟨htcp, hudp⟩
    simp only [if_neg hlayer, hicmp, if_false]
    exact .undescribed n

theorem upperKey?_eq_iff (hp : p.protocol = some n) (hq : q.protocol = some n) :
    p.upperKey? n = q.upperKey? n ↔ p.upperLayer = q.upperLayer :=
  (keyed_upperKey? hp).key_eq_iff (keyed_upperKey? hq)

/-! ## One key for each layer -/

/-- Both Ethernet addresses, if both are known. -/
def macs? (p : Packet) : Option (Mac × Mac) := do return (← p.srcMac, ← p.dstMac)

/-- Both addresses and the protocol of an IPv4 packet, if all are known. -/
def network? (p : Packet) : Option (Ipv4 × Ipv4 × Octet) := do
  guard p.isIpv4
  return (← p.source, ← p.dest, ← p.protocol)

theorem network?_of_other (h : p.etherType ≠ some .ipv4) : p.network? = none := by
  have hipv4 : p.isIpv4 = false := decide_eq_false h
  rw [network?, hipv4]
  rfl

theorem network?_eq_some_iff {src dst : Ipv4} :
    p.network? = some (src, dst, n) ↔
      p.etherType = some .ipv4 ∧ p.source = some src ∧ p.dest = some dst ∧ p.protocol = some n := by
  by_cases h : p.etherType = some .ipv4
  · have hipv4 : p.isIpv4 = true := decide_eq_true h
    simp [network?, hipv4, h, guard, Option.bind_eq_some_iff]
  · simp [network?_of_other h, h]

/-- The key that describes the packet at the layer. -/
def keyAt? (p : Packet) : Layer → Option FlowKey
  | .ingress => p.ingress.map .inPort
  | .ethernet => p.macs?.map fun (src, dst) => .ethernet src dst
  | .etherType => p.etherType.map .etherType
  | .network => p.network?.map fun (src, dst, protocol) => .ipv4 src dst protocol (p.tos.getD 0)
  | .upper => p.network?.bind fun (_, _, protocol) => p.upperKey? protocol

theorem layer?_of_keyAt? {l : Layer} {key : FlowKey} (h : p.keyAt? l = some key) :
    key.layer? = some l := by
  cases l with
  | ingress =>
    obtain ⟨port, -, rfl⟩ := Option.map_eq_some_iff.mp h
    rfl
  | ethernet =>
    obtain ⟨macs, -, rfl⟩ := Option.map_eq_some_iff.mp h
    rfl
  | etherType =>
    obtain ⟨type, -, rfl⟩ := Option.map_eq_some_iff.mp h
    rfl
  | network =>
    obtain ⟨parts, -, rfl⟩ := Option.map_eq_some_iff.mp h
    rfl
  | upper =>
    obtain ⟨⟨src, dst, n⟩, hnetwork, hupper⟩ := Option.bind_eq_some_iff.mp h
    obtain ⟨-, -, -, hn⟩ := network?_eq_some_iff.mp hnetwork
    exact (keyed_upperKey? hn).layer?_eq hupper

theorem linkKeys_eq (p : Packet) :
    p.linkKeys = [Layer.ingress, .ethernet, .etherType].filterMap p.keyAt? := by
  rw [linkKeys, List.filterMap_eq_flatMap_toList]
  cases hsrc : p.srcMac <;> cases hdst : p.dstMac <;> simp [keyAt?, macs?, hsrc, hdst]

theorem networkKeys_eq (p : Packet) :
    (if p.isIpv4 then p.networkKeys else []) = [Layer.network, .upper].filterMap p.keyAt? := by
  rw [List.filterMap_eq_flatMap_toList]
  cases hipv4 : p.isIpv4 with
  | false =>
    have hnetwork : p.network? = none := network?_of_other (of_decide_eq_false hipv4)
    simp [keyAt?, hnetwork]
  | true =>
    rw [networkKeys]
    cases hsrc : p.source <;> cases hdst : p.dest <;> cases hprotocol : p.protocol <;>
      simp [keyAt?, network?, hipv4, hsrc, hdst, hprotocol]

/-- The keys of a packet are those of its layers, in their order. -/
theorem keys_flowMatch_eq (p : Packet) : p.flowMatch.keys = Layer.all.filterMap p.keyAt? := by
  rw [flowMatch, FlowMatch.keys_foldl_add, linkKeys_eq, networkKeys_eq, ← List.filterMap_append]
  rfl

theorem map_layer?_filterMap (p : Packet) (layers : List Layer) :
    (layers.filterMap p.keyAt?).map FlowKey.layer? =
      (layers.filter fun l => (p.keyAt? l).isSome).map some := by
  induction layers with
  | nil => rfl
  | cons l layers ih =>
    cases hkey : p.keyAt? l with
    | none => simp [hkey, ih]
    | some key => simp [hkey, ih, layer?_of_keyAt? hkey]

theorem flowMatch_eq_iff_keyAt? : p.flowMatch = q.flowMatch ↔ ∀ l, p.keyAt? l = q.keyAt? l := by
  constructor
  · intro h l
    refine filterMap_parts_inj FlowKey.layer? some (fun _ _ => Option.some.inj)
      (fun _ _ => layer?_of_keyAt?) (fun _ _ => layer?_of_keyAt?) ?_ l.mem_all
    rw [← keys_flowMatch_eq, ← keys_flowMatch_eq, h]
  · intro h
    apply FlowMatch.ext_keys
    rw [keys_flowMatch_eq, keys_flowMatch_eq, funext h]

/-! ## What a match tells apart -/

/-- Are both addresses and the protocol known? -/
def NetworkKnown (p : Packet) : Prop :=
  p.source.isSome ∧ p.dest.isSome ∧ p.protocol.isSome

/-- Do the packets agree on what a match says from the network layer on? -/
structure SharesNetwork (p q : Packet) : Prop where
  source : p.source = q.source
  dest : p.dest = q.dest
  protocol : p.protocol = q.protocol
  tos : p.tos.getD 0 = q.tos.getD 0
  upper : p.upperLayer = q.upperLayer

/-- Do the packets agree on what a match says of them? -/
structure SharesMatch (p q : Packet) : Prop where
  ingress : p.ingress = q.ingress
  macs : p.macs? = q.macs?
  etherType : p.etherType = q.etherType
  known : p.etherType = some .ipv4 → (p.NetworkKnown ↔ q.NetworkKnown)
  network : p.etherType = some .ipv4 → p.NetworkKnown → p.SharesNetwork q

theorem network?_of_known (h : p.etherType = some .ipv4) (hknown : p.NetworkKnown) :
    ∃ src dst n, p.network? = some (src, dst, n) := by
  obtain ⟨hsrc, hdst, hprotocol⟩ := hknown
  obtain ⟨src, hsrc⟩ := Option.isSome_iff_exists.mp hsrc
  obtain ⟨dst, hdst⟩ := Option.isSome_iff_exists.mp hdst
  obtain ⟨n, hprotocol⟩ := Option.isSome_iff_exists.mp hprotocol
  exact ⟨src, dst, n, network?_eq_some_iff.mpr ⟨h, hsrc, hdst, hprotocol⟩⟩

theorem network?_of_unknown (h : ¬p.NetworkKnown) : p.network? = none := by
  refine Option.eq_none_iff_forall_ne_some.mpr fun (src, dst, n) hnetwork => h ?_
  obtain ⟨-, hsrc, hdst, hn⟩ := network?_eq_some_iff.mp hnetwork
  simp [NetworkKnown, hsrc, hdst, hn]

/-- An IPv4 packet has a key at the network layer if addresses and protocol are known. -/
theorem isSome_keyAt?_network (h : p.etherType = some .ipv4) :
    (p.keyAt? .network).isSome ↔ p.NetworkKnown := by
  rw [keyAt?, Option.isSome_map]
  by_cases hknown : p.NetworkKnown
  · obtain ⟨src, dst, n, hnetwork⟩ := network?_of_known h hknown
    simp [hnetwork, hknown]
  · simp [network?_of_unknown hknown, hknown]

/-- Packets whose addresses and protocols are known have the same keys from the network
layer on exactly if they agree on what a match says of these layers. -/
theorem keyAt?_network_iff (hp : p.etherType = some .ipv4) (hq : q.etherType = some .ipv4)
    (hpk : p.NetworkKnown) (hqk : q.NetworkKnown) :
    (p.keyAt? .network = q.keyAt? .network ∧ p.keyAt? .upper = q.keyAt? .upper) ↔
      p.SharesNetwork q := by
  obtain ⟨src, dst, n, hnetwork⟩ := network?_of_known hp hpk
  obtain ⟨src', dst', n', hnetwork'⟩ := network?_of_known hq hqk
  obtain ⟨-, hsrc, hdst, hn⟩ := network?_eq_some_iff.mp hnetwork
  obtain ⟨-, hsrc', hdst', hn'⟩ := network?_eq_some_iff.mp hnetwork'
  rw [keyAt?, keyAt?, keyAt?, keyAt?, hnetwork, hnetwork']
  constructor
  · rintro ⟨hkey, hupper⟩
    obtain ⟨rfl, rfl, rfl, htos⟩ :
        src = src' ∧ dst = dst' ∧ n = n' ∧ p.tos.getD 0 = q.tos.getD 0 := by
      simpa using hkey
    exact ⟨hsrc.trans hsrc'.symm, hdst.trans hdst'.symm, hn.trans hn'.symm, htos,
      (upperKey?_eq_iff hn hn').mp hupper⟩
  · intro h
    obtain rfl : src = src' := Option.some.inj (hsrc.symm.trans (h.source.trans hsrc'))
    obtain rfl : dst = dst' := Option.some.inj (hdst.symm.trans (h.dest.trans hdst'))
    obtain rfl : n = n' := Option.some.inj (hn.symm.trans (h.protocol.trans hn'))
    rw [h.tos]
    exact ⟨rfl, (upperKey?_eq_iff hn hn').mpr h.upper⟩

theorem keyAt?_ingress_iff : p.keyAt? .ingress = q.keyAt? .ingress ↔ p.ingress = q.ingress :=
  (Option.map_injective fun _ _ => FlowKey.inPort.inj).eq_iff

theorem keyAt?_ethernet_iff : p.keyAt? .ethernet = q.keyAt? .ethernet ↔ p.macs? = q.macs? :=
  (Option.map_injective fun _ _ h => Prod.ext_iff.mpr (FlowKey.ethernet.inj h)).eq_iff

theorem keyAt?_etherType_iff :
    p.keyAt? .etherType = q.keyAt? .etherType ↔ p.etherType = q.etherType :=
  (Option.map_injective fun _ _ => FlowKey.etherType.inj).eq_iff

theorem flowMatch_eq_iff : p.flowMatch = q.flowMatch ↔ p.SharesMatch q := by
  rw [flowMatch_eq_iff_keyAt?]
  constructor
  · intro h
    have htype := keyAt?_etherType_iff.mp (h .etherType)
    have hknown : p.etherType = some .ipv4 → (p.NetworkKnown ↔ q.NetworkKnown) := by
      intro hp
      rw [← isSome_keyAt?_network hp, ← isSome_keyAt?_network (htype ▸ hp), h .network]
    refine ⟨keyAt?_ingress_iff.mp (h .ingress), keyAt?_ethernet_iff.mp (h .ethernet), htype,
      hknown, ?_⟩
    intro hp hpk
    exact (keyAt?_network_iff hp (htype ▸ hp) hpk ((hknown hp).mp hpk)).mp
      ⟨h .network, h .upper⟩
  · intro h
    -- Of another type, or with something unknown, neither packet has a key from there on.
    have habove : p.keyAt? .network = q.keyAt? .network ∧ p.keyAt? .upper = q.keyAt? .upper := by
      by_cases hp : p.etherType = some .ipv4
      · by_cases hpk : p.NetworkKnown
        · exact (keyAt?_network_iff hp (h.etherType ▸ hp) hpk ((h.known hp).mp hpk)).mpr
            (h.network hp hpk)
        · have hqk := mt (h.known hp).mpr hpk
          simp only [keyAt?, network?_of_unknown hpk, network?_of_unknown hqk]
          exact ⟨rfl, rfl⟩
      · simp only [keyAt?, network?_of_other hp, network?_of_other (h.etherType ▸ hp)]
        exact ⟨rfl, rfl⟩
    intro l
    cases l with
    | ingress => exact keyAt?_ingress_iff.mpr h.ingress
    | ethernet => exact keyAt?_ethernet_iff.mpr h.macs
    | etherType => exact keyAt?_etherType_iff.mpr h.etherType
    | network => exact habove.1
    | upper => exact habove.2

/-! ## What only software can match -/

/-- An ICMP echo over IPv4, of which all is known, the identifier included. -/
structure IdentifiedEcho (p : Packet) : Prop where
  etherType : p.etherType = some .ipv4
  source : p.source.isSome
  dest : p.dest.isSome
  protocol : p.protocol = some 1
  type : p.srcPort = some 0 ∨ p.srcPort = some 8
  code : ∃ code, p.dstPort = some code ∧ code.toNat ≤ 255
  echoId : p.echoId.isSome

theorem upperLayer_eq_echo_iff :
    (∃ type code id, p.upperLayer = .icmp type code (some id)) ↔
      p.protocol = some 1 ∧ (p.srcPort = some 0 ∨ p.srcPort = some 8) ∧
        (∃ code, p.dstPort = some code ∧ code.toNat ≤ 255) ∧ p.echoId.isSome := by
  unfold upperLayer
  constructor
  · rintro ⟨type, code, id, h⟩
    grind
  · rintro ⟨hprotocol, htype, ⟨code, hdst, hcode⟩, hid⟩
    obtain ⟨id, hid⟩ := Option.isSome_iff_exists.mp hid
    rcases htype with htype | htype
    · exact ⟨0, code, id, by simp [hprotocol, htype, hdst, hcode, hid]⟩
    · exact ⟨8, code, id, by simp [hprotocol, htype, hdst, hcode, hid]⟩

theorem softwareOnly_iff_keyAt? :
    p.flowMatch.softwareOnly = true ↔ ∃ key, p.keyAt? .upper = some key ∧ key.softwareOnly := by
  rw [FlowMatch.softwareOnly_eq, keys_flowMatch_eq, List.any_eq_true]
  constructor
  · rintro ⟨key, hkey, hsoftware⟩
    obtain ⟨l, -, hl⟩ := List.mem_filterMap.mp hkey
    obtain rfl : l = .upper := FlowKey.eq_upper_of_softwareOnly hsoftware (layer?_of_keyAt? hl)
    exact ⟨key, hl, hsoftware⟩
  · rintro ⟨key, hkey, hsoftware⟩
    exact ⟨key, List.mem_filterMap.mpr ⟨.upper, Layer.mem_all _, hkey⟩, hsoftware⟩

theorem softwareOnly_iff : p.flowMatch.softwareOnly = true ↔ p.IdentifiedEcho := by
  rw [softwareOnly_iff_keyAt?]
  constructor
  · rintro ⟨key, hkey, hsoftware⟩
    obtain ⟨⟨src, dst, n⟩, hnetwork, hupper⟩ := Option.bind_eq_some_iff.mp hkey
    obtain ⟨hipv4, hsrc, hdst, hn⟩ := network?_eq_some_iff.mp hnetwork
    have hecho := (keyed_upperKey? hn).softwareOnly_iff.mp ⟨key, hupper, hsoftware⟩
    obtain ⟨hprotocol, htype, hcode, hid⟩ := upperLayer_eq_echo_iff.mp hecho
    exact ⟨hipv4, hsrc ▸ rfl, hdst ▸ rfl, hprotocol, htype, hcode, hid⟩
  · intro h
    obtain ⟨src, hsrc⟩ := Option.isSome_iff_exists.mp h.source
    obtain ⟨dst, hdst⟩ := Option.isSome_iff_exists.mp h.dest
    have hnetwork := network?_eq_some_iff.mpr ⟨h.etherType, hsrc, hdst, h.protocol⟩
    have hecho := upperLayer_eq_echo_iff.mpr ⟨h.protocol, h.type, h.code, h.echoId⟩
    obtain ⟨key, hupper, hsoftware⟩ := (keyed_upperKey? h.protocol).softwareOnly_iff.mpr hecho
    refine ⟨key, ?_, hsoftware⟩
    rw [keyAt?, hnetwork]
    exact hupper

/-! ## The flow match as a whole -/

/-- Two packets have the same match exactly if they agree on what it says of a packet. Only
software can match an echo with its identifier, and every other packet can be matched in a
datapath. The keys stand in the order of the layers, with at most one for each. -/
theorem flowMatch_shared_iff :
    (∀ p q : Packet, p.flowMatch = q.flowMatch ↔ p.SharesMatch q) ∧
    ∀ p : Packet,
      (p.flowMatch.softwareOnly = true ↔ p.IdentifiedEcho) ∧
      ∃ layers : List Layer,
        layers.Sublist [.ingress, .ethernet, .etherType, .network, .upper] ∧
        p.flowMatch.keys.map FlowKey.layer? = layers.map some := by
  refine ⟨fun p q => flowMatch_eq_iff, fun p => ⟨softwareOnly_iff, ?_⟩⟩
  refine ⟨Layer.all.filter fun l => (p.keyAt? l).isSome, List.filter_sublist, ?_⟩
  rw [keys_flowMatch_eq, map_layer?_filterMap]

end Packet

end FlowRules
