import FlowRules.FlowMatch.OfPacket
import FlowRules.Proofs.Eval.Calls
import FlowRules.Tracking.Doubles

/-!
# Decisions kept under a flow match

The answer to a condition can be kept under the packet's flow match and given to the
next packet of the same match, if the match pins down all that a condition can look at.
`Packet.Alike` says of two packets that they agree on every field that a condition looks
at, so that none tells them apart (`Packet.Alike.evaluate_eq`). Fields that only a
datapath looks at, such as the ingress port, may differ.

A match pins these fields down if they are all known (`Packet.Complete`) : each then
stands in some key, from which it is read back (`Packet.Complete.alike`). The type of
service must be known as well : an unknown one is described as zero, although a condition
tells it from zero.
-/

namespace FlowRules

/-! ## The keys of a packet -/

theorem FlowMatch.keys_foldl_add (m : FlowMatch) (keys : List FlowKey) :
    (keys.foldl add m).keys = m.keys ++ keys := by
  induction keys generalizing m with
  | nil => simp
  | cons key keys ih => rw [List.foldl_cons, ih, add, List.append_assoc, List.singleton_append]

/-- Does the key speak of what is below the network layer? -/
def FlowKey.isLink : FlowKey → Bool
  | inPort .. | ethernet .. | etherType .. => true
  | _ => false

/-- A port that holds an octet is read back from it. -/
theorem Port.octet?_eq_some_iff {p : Port} {x : Octet} :
    p.octet? = some x ↔ p = x.setWidth 16 := by
  have hx : x.toNat < 256 := x.isLt
  rw [octet?, ← BitVec.toNat_inj, BitVec.toNat_setWidth]
  constructor
  · intro h
    split at h
    next hp =>
      obtain rfl := Option.some.inj h
      rw [BitVec.toNat_setWidth]
      omega
    next => cases h
  · intro h
    have hp : p.toNat = x.toNat := by omega
    rw [if_pos (by omega), Option.some.injEq, ← BitVec.toNat_inj, BitVec.toNat_setWidth]
    omega

theorem Port.exists_octet {p : Port} (h : p.toNat ≤ 255) : ∃ x, p.octet? = some x :=
  ⟨_, if_pos h⟩

namespace Packet

variable {p q : Packet}

theorem keys_flowMatch (hp : p.etherType = some EtherType.ipv4) :
    p.flowMatch.keys = p.linkKeys ++ p.networkKeys := by
  have hipv4 : p.isIpv4 = true := decide_eq_true hp
  rw [flowMatch, FlowMatch.keys_foldl_add, if_pos hipv4]
  rfl

theorem isLink_of_mem_linkKeys {key : FlowKey} (h : key ∈ p.linkKeys) : key.isLink = true := by
  rw [linkKeys, List.mem_append, List.mem_append] at h
  rcases h with (h | h) | h
  · obtain ⟨port, -, rfl⟩ : ∃ port, p.ingress = some port ∧ FlowKey.inPort port = key := by
      simpa using h
    rfl
  · split at h
    · obtain rfl := List.mem_singleton.mp h
      rfl
    · cases h
  · obtain ⟨type, -, rfl⟩ : ∃ type, p.etherType = some type ∧ FlowKey.etherType type = key := by
      simpa using h
    rfl

/-- The type and the code of an ICMP message are read back from either of its keys. -/
theorem icmpKey_inj {type type' code code' : Octet} {echoId echoId' : Option (BitVec 16)}
    (h : icmpKey type code echoId = icmpKey type' code' echoId') :
    type = type' ∧ code = code' := by
  unfold icmpKey at h
  grind

/-! ## Packets of which all is known -/

/-- Of TCP and UDP both ports are known, of ICMP the type and the code, which are octets,
and of any other protocol there are none. -/
inductive UpperKnown (p : Packet) : Protocol → Prop where
  | ports {protocol : Protocol} {src dst : Port} (hports : protocol.hasPorts = true)
      (hsrc : p.srcPort = some src) (hdst : p.dstPort = some dst) : UpperKnown p protocol
  | icmp {type code : Port} (hsrc : p.srcPort = some type) (hdst : p.dstPort = some code)
      (htype : type.toNat ≤ 255) (hcode : code.toNat ≤ 255) : UpperKnown p .icmp
  | bare {protocol : Protocol} (hports : protocol.hasPorts = false) (hicmp : protocol ≠ .icmp)
      (hsrc : p.srcPort = none) (hdst : p.dstPort = none) : UpperKnown p protocol

/-- An IPv4 packet of which all is known, its type of service apart. -/
structure CompleteButTos (p : Packet) : Prop where
  etherType : p.etherType = some EtherType.ipv4
  source : ∃ src, p.source = some src
  dest : ∃ dst, p.dest = some dst
  protocol : ∃ protocol, p.protocol = some protocol ∧ p.UpperKnown (Protocol.ofNumber protocol)

/-- An IPv4 packet of which all is known that a condition can look at. -/
structure Complete (p : Packet) : Prop extends CompleteButTos p where
  tos : ∃ tos, p.tos = some tos

/-- Ports that are known are read back from the key of the layer above IPv4. -/
theorem UpperKnown.ports_eq {n : Octet} (hp : p.UpperKnown (Protocol.ofNumber n))
    (hq : q.UpperKnown (Protocol.ofNumber n)) (h : p.upperKey? n = q.upperKey? n) :
    p.srcPort = q.srcPort ∧ p.dstPort = q.dstPort := by
  unfold upperKey? at h
  generalize Protocol.ofNumber n = protocol at hp hq h
  cases hp with
  | ports hports hsrc hdst =>
    cases hq with
    | ports _ hsrc' hdst' =>
      rw [hsrc, hdst, hsrc', hdst'] at h ⊢
      cases protocol <;> simp_all [Protocol.hasPorts]
    | icmp => cases hports
    | bare hports' => simp [hports] at hports'
  | icmp hsrc hdst htype hcode =>
    cases hq with
    | ports hports => cases hports
    | icmp hsrc' hdst' htype' hcode' =>
      rw [hsrc, hdst, hsrc', hdst'] at h ⊢
      obtain ⟨type, ht⟩ := Port.exists_octet htype
      obtain ⟨code, hc⟩ := Port.exists_octet hcode
      obtain ⟨type', ht'⟩ := Port.exists_octet htype'
      obtain ⟨code', hc'⟩ := Port.exists_octet hcode'
      have hkey : icmpKey type code p.echoId = icmpKey type' code' q.echoId := by
        simpa [ht, hc, ht', hc'] using h
      obtain ⟨rfl, rfl⟩ := icmpKey_inj hkey
      rw [Port.octet?_eq_some_iff] at ht hc ht' hc'
      rw [ht, hc, ht', hc']
      exact ⟨rfl, rfl⟩
    | bare _ hicmp => exact absurd rfl hicmp
  | bare hports hicmp hsrc hdst =>
    cases hq with
    | ports hports' => simp [hports] at hports'
    | icmp => exact absurd rfl hicmp
    | bare _ _ hsrc' hdst' => exact ⟨hsrc.trans hsrc'.symm, hdst.trans hdst'.symm⟩

/-! ## Packets that no condition tells apart -/

/-- Do the packets agree on all that a condition looks at? -/
structure Alike (p q : Packet) : Prop where
  etherType : p.etherType = q.etherType
  source : p.source = q.source
  dest : p.dest = q.dest
  protocol : p.protocol = q.protocol
  tos : p.tos = q.tos
  srcPort : p.srcPort = q.srcPort
  dstPort : p.dstPort = q.dstPort

namespace Alike

variable {σ : Type}

theorem flowSig?_eq (h : p.Alike q) : p.flowSig? = q.flowSig? := by
  have hipv4 : p.isIpv4 = q.isIpv4 := by rw [isIpv4, isIpv4, h.etherType]
  have hprotocol : p.namedProtocol? = q.namedProtocol? := by
    rw [namedProtocol?, namedProtocol?, h.protocol]
  rw [flowSig?, flowSig?, hipv4, hprotocol, h.source, h.dest, h.srcPort, h.dstPort]

theorem stateless_eq (h : p.Alike q) (c : Condition) (site : Attachment) (ctx : Context) :
    c.stateless site ctx p = c.stateless site ctx q := by
  simp only [Condition.stateless, h.source, h.dest, h.protocol, h.tos, h.srcPort, h.dstPort]

theorem flowStateBlocking_eq (h : p.Alike q) (cache : Cache σ) :
    Eval.flowStateBlocking cache p = Eval.flowStateBlocking cache q := by
  simp only [Eval.flowStateBlocking, h.flowSig?_eq]

/-- No evaluation tells alike packets apart. -/
theorem evaluate_eq (h : p.Alike q) (cache : Cache σ) (mode : ReadMode) (c : Condition)
    (site : Attachment) : c.evaluate cache mode site p = c.evaluate cache mode site q := by
  simp only [Condition.evaluate_eq_blocking, Condition.evaluateBlocking, h.stateless_eq,
    h.flowStateBlocking_eq]

end Alike

/-! ## What a flow match says of a packet -/

/-- The keys from the network layer on start with the one of IPv4. -/
theorem CompleteButTos.networkKeys_eq (hp : p.CompleteButTos) :
    ∃ src dst protocol, p.source = some src ∧ p.dest = some dst ∧ p.protocol = some protocol ∧
      p.UpperKnown (Protocol.ofNumber protocol) ∧
      p.flowMatch.keys.dropWhile FlowKey.isLink =
        .ipv4 src dst protocol (p.tos.getD 0) :: (p.upperKey? protocol).toList := by
  obtain ⟨src, hsrc⟩ := hp.source
  obtain ⟨dst, hdst⟩ := hp.dest
  obtain ⟨protocol, hprotocol, hupper⟩ := hp.protocol
  refine ⟨src, dst, protocol, hsrc, hdst, hprotocol, hupper, ?_⟩
  rw [keys_flowMatch hp.etherType,
    List.dropWhile_append_of_pos fun _ => isLink_of_mem_linkKeys, networkKeys, hsrc, hdst,
    hprotocol]
  rfl

/-- Complete packets of one match are alike. -/
theorem Complete.alike (hp : p.Complete) (hq : q.Complete) (h : p.flowMatch = q.flowMatch) :
    p.Alike q := by
  obtain ⟨src, dst, protocol, hsrc, hdst, hprotocol, hupper, hkeys⟩ :=
    hp.toCompleteButTos.networkKeys_eq
  obtain ⟨src', dst', protocol', hsrc', hdst', hprotocol', hupper', hkeys'⟩ :=
    hq.toCompleteButTos.networkKeys_eq
  obtain ⟨tos, htos⟩ := hp.tos
  obtain ⟨tos', htos'⟩ := hq.tos
  rw [h, hkeys', htos, htos'] at hkeys
  obtain ⟨hipv4, habove⟩ := List.cons.inj hkeys
  obtain ⟨rfl, rfl, rfl, rfl⟩ : src' = src ∧ dst' = dst ∧ protocol' = protocol ∧ tos' = tos := by
    simpa using hipv4
  have hupperKey : p.upperKey? protocol' = q.upperKey? protocol' := by
    simpa using (congrArg List.head? habove).symm
  obtain ⟨hports, hports'⟩ := hupper.ports_eq hupper' hupperKey
  exact ⟨hp.etherType.trans hq.etherType.symm, hsrc.trans hsrc'.symm, hdst.trans hdst'.symm,
    hprotocol.trans hprotocol'.symm, htos.trans htos'.symm, hports, hports'⟩

/-! ## An unknown type of service -/

theorem UpperKnown.withTos {protocol : Protocol} (h : p.UpperKnown protocol)
    (tos : Option Octet) : { p with tos }.UpperKnown protocol := by
  cases h with
  | ports hports hsrc hdst => exact .ports hports hsrc hdst
  | icmp hsrc hdst htype hcode => exact .icmp hsrc hdst htype hcode
  | bare hports hicmp hsrc hdst => exact .bare hports hicmp hsrc hdst

theorem CompleteButTos.withTos (hp : p.CompleteButTos) (tos : Option Octet) :
    { p with tos }.CompleteButTos := by
  obtain ⟨protocol, hprotocol, hupper⟩ := hp.protocol
  exact ⟨hp.etherType, hp.source, hp.dest, protocol, hprotocol, hupper.withTos tos⟩

/-- The condition that wants the type of service zero. -/
def wantsTosZero : Condition := { tos := { wanted := some 0 } }

theorem outcome_evaluate_wantsTosZero {σ : Type} (cache : Cache σ) (mode : ReadMode)
    (site : Attachment) (p : Packet) (s : EvalState σ) :
    Eval.outcome (wantsTosZero.evaluate cache mode site p) s = (.ok (p.tos = some 0), s) := by
  have hstateless : wantsTosZero.stateless site s.context p = decide (p.tos = some 0) := by
    simp [wantsTosZero, Condition.stateless, Condition.inPortsHold, Condition.outPortsHold,
      Clause.holds, PortClause.holds, PortRange.admits, PortRange.isFull]
  cases htos : decide (p.tos = some 0) with
  | true =>
    rw [Condition.outcome_evaluate_of_met (hstateless.trans htos) rfl]
    rfl
  | false =>
    rw [Condition.outcome_evaluate_of_unmet (hstateless.trans htos)]
    rfl

/-- Every condition says the same of complete packets of one match, with the same effect on
context, cache and log. The type of service has to be known for that : whatever else is
known of a packet, the match does not tell an unknown one from zero, and a condition does. -/
theorem flowMatch_decides :
    (∀ p q : Packet, p.Complete → q.Complete → p.flowMatch = q.flowMatch →
      ∀ {σ : Type} (cache : Cache σ) (mode : ReadMode) (c : Condition) (site : Attachment)
        (s : EvalState σ), Eval.outcome (c.evaluate cache mode site p) s =
          Eval.outcome (c.evaluate cache mode site q) s) ∧
    ∀ p : Packet, p.CompleteButTos →
      { p with tos := none }.CompleteButTos ∧ { p with tos := some 0 }.Complete ∧
      { p with tos := none }.flowMatch = { p with tos := some 0 }.flowMatch ∧
      ∀ {σ : Type} (cache : Cache σ) (mode : ReadMode) (site : Attachment) (s : EvalState σ),
        Eval.outcome (wantsTosZero.evaluate cache mode site { p with tos := none }) s =
          (.ok false, s) ∧
        Eval.outcome (wantsTosZero.evaluate cache mode site { p with tos := some 0 }) s =
          (.ok true, s) := by
  constructor
  · intro p q hp hq hmatch σ cache mode c site s
    rw [(hp.alike hq hmatch).evaluate_eq]
  · intro p hp
    refine ⟨hp.withTos none, ⟨hp.withTos (some 0), 0, rfl⟩, rfl, ?_⟩
    intro σ cache mode site s
    simp only [outcome_evaluate_wantsTosZero]
    exact ⟨rfl, rfl⟩

/-- The request in a frame whose sender is known. -/
def sampleFrame : Packet := { sampleRequest with srcMac := some ⟨2, 0, 0, 0, 0, 1⟩ }

/-- What is decided of the request holds of the frame, which differs from it, but not if its
type of service is unknown. -/
theorem sampleFrame_decided :
    sampleRequest ≠ sampleFrame ∧
    Eval.outcome (Condition.evaluate FixedCache.cache .async { forwardFlow := true } .element
      sampleFrame) ⟨{ device := ⟨0⟩ }, { answer := none }, []⟩ =
    Eval.outcome (Condition.evaluate FixedCache.cache .async { forwardFlow := true } .element
      sampleRequest) ⟨{ device := ⟨0⟩ }, { answer := none }, []⟩ ∧
    { sampleFrame with tos := none }.flowMatch = sampleFrame.flowMatch ∧
    Eval.outcome (wantsTosZero.evaluate FixedCache.cache .blocking .portFilter
      { sampleFrame with tos := none }) ⟨{ device := ⟨0⟩ }, { answer := none }, []⟩ =
        (.ok false, ⟨{ device := ⟨0⟩ }, { answer := none }, []⟩) := by
  have hrequest : sampleRequest.CompleteButTos :=
    ⟨rfl, ⟨_, rfl⟩, ⟨_, rfl⟩, 6, rfl, .ports rfl rfl rfl⟩
  have hframe : sampleFrame.CompleteButTos :=
    ⟨rfl, ⟨_, rfl⟩, ⟨_, rfl⟩, 6, rfl, .ports rfl rfl rfl⟩
  obtain ⟨hsame, hunknown⟩ := flowMatch_decides
  obtain ⟨-, -, hmatch, hdiffer⟩ := hunknown sampleFrame hframe
  exact ⟨by decide, hsame _ _ ⟨hframe, 0, rfl⟩ ⟨hrequest, 0, rfl⟩ rfl _ _ _ _ _, hmatch,
    (hdiffer _ _ _ _).1⟩

end Packet

end FlowRules
