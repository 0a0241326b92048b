import FlowRules.Condition.Lint
import FlowRules.Proofs.Eval.Verdict
import FlowRules.Proofs.Tracking.Signature
import FlowRules.Tracking.Doubles
import Mathlib.Data.Option.Basic

/-!
# Conditions that no packet meets

A condition that is not negated holds of a packet if all its clauses are met and the
direction of the flow suits it (`Condition.outcome_eq_true_iff`). Its clauses look at
different parts of the path and the packet, so a packet that meets them all is put
together from parts that meet one each (`Clause.exists_met`), unless one of them cannot
be met by anything, or two of them exclude each other. `Condition.Contradiction` lists
these cases by the fields of the condition alone : the flow can go in one direction
only, and only the flow of a protocol with ports is ever recognised as returning.

`Condition.neverHolds_iff` says that the list is complete. What the lints report is
on it, as long as no clause is inverted.
-/

namespace FlowRules

/-! ## Clauses that can be met -/

/-- A clause is met by some part of a packet if that can be what is configured, or be
something else where the clause is inverted. -/
theorem Clause.exists_met {α β : Type} [Inhabited β] {c : Clause α} {raw : α → β → Prop}
    (hin : ∀ a, c.wanted = some a → c.inverted = false → ∃ b, raw a b)
    (hout : ∀ a, c.wanted = some a → c.inverted = true → ∃ b, ¬raw a b) :
    ∃ b, c.Met fun a => raw a b := by
  unfold Met
  cases hwanted : c.wanted with
  | none => exact ⟨default, by simp⟩
  | some a =>
    cases hinv : c.inverted with
    | false =>
      obtain ⟨b, hb⟩ := hin a hwanted hinv
      refine ⟨b, fun a' ha' => ?_⟩
      obtain rfl := Option.some.inj ha'
      exact Or.inl ⟨hb, by simp⟩
    | true =>
      obtain ⟨b, hb⟩ := hout a hwanted hinv
      refine ⟨b, fun a' ha' => ?_⟩
      obtain rfl := Option.some.inj ha'
      exact Or.inr ⟨rfl, hb⟩

/-- A clause that asks for one of no keys. -/
def Clause.AsksForNone (c : Clause (KeySet PortId)) : Prop :=
  ∃ ports, c.wanted = some ports ∧ Table.keys ports = [] ∧ c.inverted = false

/-- A clause that asks for no network although every address is in it. -/
def Clause.ExcludesAll (c : Clause Network) : Prop :=
  ∃ net, c.wanted = some net ∧ net.len.val = 0 ∧ c.inverted = true

/-- A clause that asks for a port in an empty range or outside the full one. -/
def PortClause.Contradictory (c : PortClause) : Prop :=
  (c.range.last.toNat < c.range.first.toNat ∧ c.inverted = false) ∨
    (c.range.first = 0 ∧ c.range.last = 65535 ∧ c.inverted = true)

theorem Clause.exists_met_ports {c : Clause (KeySet PortId)} (h : ¬c.AsksForNone) :
    ∃ port : Option PortId, c.Met fun ports => ∃ k, port = some k ∧ k ∈ Table.keys ports := by
  refine exists_met (fun ports hwanted hinv => ?_) fun ports _ _ => ⟨none, by simp⟩
  obtain ⟨k, hk⟩ := List.exists_mem_of_ne_nil _ fun hnil => h ⟨ports, hwanted, hnil, hinv⟩
  exact ⟨some k, k, rfl, hk⟩

theorem Clause.not_met_of_asksForNone {c : Clause (KeySet PortId)} (h : c.AsksForNone)
    (port : Option PortId) :
    ¬c.Met fun ports => ∃ k, port = some k ∧ k ∈ Table.keys ports := by
  obtain ⟨ports, hwanted, hnil, hinv⟩ := h
  intro hmet
  rcases hmet ports hwanted with ⟨⟨k, -, hk⟩, -⟩ | ⟨htrue, -⟩
  · exact List.not_mem_nil (hnil ▸ hk)
  · exact Bool.false_ne_true (hinv.symm.trans htrue)

theorem Clause.asksForNone_of_wantsNone {c : Clause (KeySet PortId)} (h : c.wantsNone = true)
    (hplain : ∀ ports, c.wanted = some ports → c.inverted = false) : c.AsksForNone := by
  obtain ⟨ports, hwanted, hempty⟩ := (Option.any_eq_true ..).mp h
  refine ⟨ports, hwanted, ?_, hplain ports hwanted⟩
  rw [Table.keys, List.isEmpty_iff.mp hempty, List.map_nil]

theorem Clause.exists_met_group (c : Clause GroupId) :
    ∃ groups : KeySet GroupId, c.Met fun group => group ∈ Table.keys groups :=
  exists_met (fun group _ _ => ⟨KeySet.ofList [group], List.mem_singleton_self group⟩)
    fun _ _ _ => ⟨.empty, List.not_mem_nil⟩

theorem Clause.exists_met_octet (c : Clause Octet) :
    ∃ o : Option Octet, c.Met fun n => o = some n :=
  exists_met (fun n _ _ => ⟨some n, rfl⟩) fun _ _ _ => ⟨none, by simp⟩

/-- Some address is outside a network that has a prefix. -/
theorem Network.exists_outside {net : Network} (h : net.len.val ≠ 0) :
    ∃ ip, ¬net.Reaches (some ip) := by
  have hle := net.len.le
  have hblock : 2 ^ (32 - net.len.val) ≤ 2 ^ 31 := Nat.pow_le_pow_right (by decide) (by omega)
  have hpos : 0 < 2 ^ (32 - net.len.val) := Nat.two_pow_pos _
  -- The least and the greatest address have different quotients.
  have hleast : Ipv4.any.number / 2 ^ (32 - net.len.val) = 0 := Nat.zero_div _
  have hgreatest : 0 < Ipv4.broadcast.number / 2 ^ (32 - net.len.val) :=
    Nat.div_pos (Nat.le_trans hblock (by decide)) hpos
  by_cases hzero : net.address.number / 2 ^ (32 - net.len.val) = 0
  · refine ⟨.broadcast, ?_⟩
    rintro (hlen | ⟨a, ha, hquot⟩)
    · exact h hlen
    · obtain rfl := Option.some.inj ha
      omega
  · refine ⟨.any, ?_⟩
    rintro (hlen | ⟨a, ha, hquot⟩)
    · exact h hlen
    · obtain rfl := Option.some.inj ha
      omega

theorem Clause.exists_met_address {c : Clause Network} (h : ¬c.ExcludesAll) :
    ∃ ip, c.Met fun net => net.Reaches (some ip) :=
  have : Inhabited Ipv4 := ⟨.any⟩
  exists_met (fun net _ _ => ⟨net.address, Or.inr ⟨_, rfl, rfl⟩⟩) fun net hwanted hinv =>
    Network.exists_outside fun hlen => h ⟨net, hwanted, hlen, hinv⟩

theorem Clause.not_met_of_excludesAll {c : Clause Network} (h : c.ExcludesAll) (ip : Option Ipv4) :
    ¬c.Met fun net => net.Reaches ip := by
  obtain ⟨net, hwanted, hlen, hinv⟩ := h
  intro hmet
  rcases hmet net hwanted with ⟨-, hplain⟩ | ⟨-, hout⟩
  · exact hplain hinv
  · exact hout (Or.inl hlen)

theorem PortClause.exists_met {c : PortClause} (h : ¬c.Contradictory) :
    ∃ port : Port, c.Met (some port) := by
  obtain ⟨⟨first, last⟩, inverted⟩ := c
  cases inverted with
  | false =>
    have hle : first.toNat ≤ last.toNat := Nat.le_of_not_lt fun hlt => h (Or.inl ⟨hlt, rfl⟩)
    exact ⟨first, Or.inl ⟨Or.inr ⟨first, rfl, Nat.le_refl _, hle⟩, by simp⟩⟩
  | true =>
    have hpartial : ¬(first = 0 ∧ last = 65535) := fun hfull => h (Or.inr ⟨hfull.1, hfull.2, rfl⟩)
    by_cases hfirst : first = 0
    · -- The range ends before the greatest port.
      have hlast : last.toNat < 65535 := by
        have hne : last.toNat ≠ 65535 := fun heq =>
          hpartial ⟨hfirst, BitVec.eq_of_toNat_eq (by simpa using heq)⟩
        have := last.isLt
        omega
      refine ⟨65535, Or.inr ⟨rfl, ?_⟩⟩
      rintro (hfull | ⟨p, hp, -, hle⟩)
      · exact hpartial hfull
      · obtain rfl := Option.some.inj hp
        exact absurd hle (Nat.not_le_of_lt hlast)
    · have hpos : first.toNat ≠ 0 := fun heq => hfirst (BitVec.eq_of_toNat_eq (by simpa using heq))
      refine ⟨0, Or.inr ⟨rfl, ?_⟩⟩
      rintro (hfull | ⟨p, hp, hle, -⟩)
      · exact hpartial hfull
      · obtain rfl := Option.some.inj hp
        exact hpos (Nat.le_zero.mp hle)

theorem PortClause.not_met_of_contradictory {c : PortClause} (h : c.Contradictory)
    (port : Option Port) : ¬c.Met port := by
  intro hmet
  rcases h with ⟨hempty, hinv⟩ | ⟨hfirst, hlast, hinv⟩
  · rcases hmet with ⟨⟨hfirst, hlast⟩ | ⟨p, -, hge, hle⟩, -⟩ | ⟨htrue, -⟩
    · rw [hfirst, hlast] at hempty
      exact absurd hempty (by decide)
    · omega
    · exact Bool.false_ne_true (hinv.symm.trans htrue)
  · rcases hmet with ⟨-, hplain⟩ | ⟨-, hout⟩
    · exact hplain hinv
    · exact hout (Or.inl ⟨hfirst, hlast⟩)

namespace Condition

/-! ## Conditions that hold -/

variable {σ : Type} {cache : Cache σ} {mode : ReadMode} {c : Condition} {site : Attachment}
  {p : Packet} {s : EvalState σ}

/-- The condition holds if all clauses are met and the direction, if one is wanted, is
found and suits. -/
theorem outcome_eq_true_iff (hc : c.negated = false) :
    (Eval.outcome (c.evaluate cache mode site p) s).1 = .ok true ↔
      (∀ name, c.Meets site s.context p name) ∧ (c.WantsDirection →
        ∃ state s', Directed cache mode p s (.ok state) s' ∧ c.Suits state) := by
  constructor
  · intro h
    rcases hout : Eval.outcome (c.evaluate cache mode site p) s with ⟨r, s'⟩
    rw [hout] at h
    cases (outcome_evaluate_iff ..).mp hout with
    | unmet => simp [hc] at h
    | met hclauses hnone => exact ⟨hclauses, fun hwants => absurd hwants hnone⟩
    | failed => cases h
    | suited hclauses _ hdir hsuits => exact ⟨hclauses, fun _ => ⟨_, _, hdir, hsuits⟩⟩
    | unsuited => simp [hc] at h
  · rintro ⟨hclauses, hdirection⟩
    by_cases hwants : c.WantsDirection
    · obtain ⟨state, s', hdir, hsuits⟩ := hdirection hwants
      rw [(outcome_evaluate_iff ..).mpr (.suited hclauses hwants hdir hsuits), hc]
      rfl
    · rw [(outcome_evaluate_iff ..).mpr (.met hclauses hwants), hc]
      rfl

/-- Does the condition hold of no packet, on a context that knows no direction yet? -/
def NeverHolds (c : Condition) : Prop :=
  ∀ (σ : Type) (cache : Cache σ) (mode : ReadMode) (site : Attachment) (p : Packet)
    (s : EvalState σ), s.context.flowState = .untracked →
      (Eval.outcome (c.evaluate cache mode site p) s).1 ≠ .ok true

/-- Why a condition holds of no packet. -/
inductive Contradiction (c : Condition) : Prop where
  | inPorts (h : c.inPorts.AsksForNone)
  | outPorts (h : c.outPorts.AsksForNone)
  | srcPorts (h : c.srcPorts.Contradictory)
  | dstPorts (h : c.dstPorts.Contradictory)
  | source (h : c.source.ExcludesAll)
  | dest (h : c.dest.ExcludesAll)
  | bothDirections (hforward : c.forwardFlow = true) (hreturn : c.returnFlow = true)
  /-- The protocol asked for is neither TCP nor UDP. -/
  | returnWithoutPorts {n : Octet} (hreturn : c.returnFlow = true)
      (hwanted : c.protocol.wanted = some n) (hplain : c.protocol.inverted = false)
      (htcp : n ≠ 6) (hudp : n ≠ 17)

/-- A contradiction is never met, whatever the cache answers. -/
theorem Contradiction.neverHolds (h : c.Contradiction) (hc : c.negated = false) :
    c.NeverHolds := by
  intro σ cache mode site p s hnew htrue
  obtain ⟨hclauses, hdirection⟩ := (outcome_eq_true_iff hc).mp htrue
  cases h with
  | inPorts h => exact Clause.not_met_of_asksForNone h _ (hclauses .inPorts)
  | outPorts h =>
    cases site with
    | element => exact Clause.not_met_of_asksForNone h _ (hclauses .outPorts)
    | portFilter =>
      obtain ⟨ports, hwanted, -, hplain⟩ := h
      exact Bool.false_ne_true (hplain.symm.trans (hclauses .outPorts ports hwanted))
  | srcPorts h => exact PortClause.not_met_of_contradictory h _ (hclauses .srcPorts)
  | dstPorts h => exact PortClause.not_met_of_contradictory h _ (hclauses .dstPorts)
  | source h => exact Clause.not_met_of_excludesAll h _ (hclauses .source)
  | dest h => exact Clause.not_met_of_excludesAll h _ (hclauses .dest)
  | bothDirections hforward hreturn =>
    obtain ⟨state, s', -, hsuits⟩ := hdirection (Or.inl hforward)
    exact absurd ((hsuits.1 hforward).symm.trans (hsuits.2 hreturn)) (by decide)
  | @returnWithoutPorts n hreturn hwanted hplain htcp hudp =>
    obtain ⟨state, s', hdir, hsuits⟩ := hdirection (Or.inr hreturn)
    obtain rfl := hsuits.2 hreturn
    have hprotocol : p.protocol = some n := by
      rcases hclauses .protocol n hwanted with ⟨heq, -⟩ | ⟨hinv, -⟩
      · exact heq
      · exact absurd (hplain.symm.trans hinv) Bool.false_ne_true
    -- Only a packet with a signature is found to be return traffic.
    generalize hr : (Except.ok FlowState.returning : Except CacheError FlowState) = r at hdir
    cases hdir with
    | known hknown => exact hknown hnew
    | marked _ hsig _ =>
      rcases Packet.protocol_of_flowSig? hsig with h | h
      · exact htcp (Option.some.inj (hprotocol.symm.trans h))
      · exact hudp (Option.some.inj (hprotocol.symm.trans h))
    | noSignature => cases hr
    | readFails => cases hr
    | writeFails => cases hr
    | unmarked => cases hr

/-- The protocol asked for can be one whose returning flows are recognised. -/
theorem exists_met_protocol (h : ¬c.Contradiction) :
    ∃ o : Option Octet, (c.protocol.Met fun n => o = some n) ∧
      (c.returnFlow = true → o = some 6 ∨ o = some 17) := by
  cases hreturn : c.returnFlow with
  | false =>
    obtain ⟨o, ho⟩ := c.protocol.exists_met_octet
    exact ⟨o, ho, by simp⟩
  | true =>
    let ported := { o : Option Octet // o = some 6 ∨ o = some 17 }
    have : Inhabited ported := ⟨some 6, Or.inl rfl⟩
    have hmet : ∃ o : ported, c.protocol.Met fun n => o.val = some n := by
      refine Clause.exists_met (fun n hwanted hplain => ?_) fun n _ _ => ?_
      · by_cases htcp : n = 6
        · exact ⟨⟨some 6, Or.inl rfl⟩, congrArg some htcp.symm⟩
        · have hudp : n = 17 := by
            by_contra hne
            exact h (.returnWithoutPorts hreturn hwanted hplain htcp hne)
          exact ⟨⟨some 17, Or.inr rfl⟩, congrArg some hudp.symm⟩
      · by_cases htcp : n = 6
        · exact ⟨⟨some 17, Or.inr rfl⟩, by simp [htcp]⟩
        · exact ⟨⟨some 6, Or.inl rfl⟩, fun heq => htcp (Option.some.inj heq).symm⟩
    obtain ⟨o, ho⟩ := hmet
    exact ⟨o.val, ho, fun _ => o.property⟩

/-- Without a contradiction the parts that meet the clauses make a packet and a context.
The cache answers every read with the marker, which only return traffic asks for. -/
theorem not_neverHolds (hc : c.negated = false) (h : ¬c.Contradiction) : ¬c.NeverHolds := by
  obtain ⟨inPort, hin⟩ := Clause.exists_met_ports fun hnone => h (.inPorts hnone)
  obtain ⟨outPort, hout⟩ := Clause.exists_met_ports fun hnone => h (.outPorts hnone)
  obtain ⟨groups, hgroup⟩ := c.group.exists_met_group
  obtain ⟨tos, htos⟩ := c.tos.exists_met_octet
  obtain ⟨protocol, hprotocol, hports⟩ := exists_met_protocol h
  obtain ⟨source, hsource⟩ := Clause.exists_met_address fun hall => h (.source hall)
  obtain ⟨dest, hdest⟩ := Clause.exists_met_address fun hall => h (.dest hall)
  obtain ⟨src, hsrc⟩ := PortClause.exists_met fun hnone => h (.srcPorts hnone)
  obtain ⟨dst, hdst⟩ := PortClause.exists_met fun hnone => h (.dstPorts hnone)
  let p : Packet :=
    { etherType := if c.returnFlow then some .ipv4 else none, source := some source,
      dest := some dest, protocol, tos, srcPort := some src, dstPort := some dst }
  let s : EvalState FixedCache :=
    ⟨{ device := ⟨0⟩, inPort, outPort, groups }, { answer := some returnMarker }, []⟩
  intro hnever
  refine hnever FixedCache FixedCache.cache .blocking .element p s rfl
    ((outcome_eq_true_iff hc).mpr ⟨?_, fun _ => ?_⟩)
  · intro name
    cases name <;> assumption
  · cases hreturn : c.returnFlow with
    | false =>
      have hsig : p.flowSig? = none := Packet.flowSig?_of_other (by simp [p, hreturn])
      exact ⟨_, _, .noSignature rfl hsig, fun _ => rfl, by simp [hreturn]⟩
    | true =>
      obtain ⟨sig, hsig⟩ : ∃ sig, p.flowSig? = some sig :=
        Packet.exists_flowSig? (by simp [p, hreturn]) (hports hreturn) rfl rfl rfl rfl
      refine ⟨_, _, .marked rfl hsig rfl, fun hforward => ?_, fun _ => rfl⟩
      exact absurd (.bothDirections hforward hreturn) h

/-! ## Lints -/

/-- Is no configured clause inverted? -/
structure Upright (c : Condition) : Prop where
  inPorts : ∀ ports, c.inPorts.wanted = some ports → c.inPorts.inverted = false
  outPorts : ∀ ports, c.outPorts.wanted = some ports → c.outPorts.inverted = false
  group : ∀ group, c.group.wanted = some group → c.group.inverted = false
  tos : ∀ tos, c.tos.wanted = some tos → c.tos.inverted = false
  protocol : ∀ protocol, c.protocol.wanted = some protocol → c.protocol.inverted = false
  source : ∀ net, c.source.wanted = some net → c.source.inverted = false
  dest : ∀ net, c.dest.wanted = some net → c.dest.inverted = false
  srcPorts : c.srcPorts.inverted = false
  dstPorts : c.dstPorts.inverted = false

/-- What a lint reports is a contradiction, if no clause is inverted. -/
theorem contradiction_of_mem_lints {lint : Lint} (h : lint ∈ c.lints) (hup : c.Upright) :
    c.Contradiction := by
  simp only [lints, List.mem_append, List.mem_ite_nil_right, or_assoc] at h
  rcases h with ⟨h, -⟩ | ⟨h, -⟩ | ⟨h, -⟩ | ⟨h, -⟩ | ⟨h, -⟩
  · exact .inPorts (Clause.asksForNone_of_wantsNone h hup.inPorts)
  · exact .outPorts (Clause.asksForNone_of_wantsNone h hup.outPorts)
  · exact .srcPorts (Or.inl ⟨of_decide_eq_true h, hup.srcPorts⟩)
  · exact .dstPorts (Or.inl ⟨of_decide_eq_true h, hup.dstPorts⟩)
  · obtain ⟨hforward, hreturn⟩ := Bool.and_eq_true_iff.mp h
    exact .bothDirections hforward hreturn

/-! ## The complete list -/

/-- A condition that is not negated holds of no packet, whatever the context and the
cache, exactly if it has a contradiction. In particular it does if something is reported
about it and no clause is inverted. -/
theorem neverHolds_iff (c : Condition) (hc : c.negated = false) :
    (c.NeverHolds ↔ c.Contradiction) ∧ (c.Upright → ∀ lint ∈ c.lints, c.NeverHolds) := by
  refine ⟨⟨fun hnever => ?_, fun h => h.neverHolds hc⟩, fun hup lint hlint => ?_⟩
  · by_contra h
    exact not_neverHolds hc h hnever
  · exact (contradiction_of_mem_lints hlint hup).neverHolds hc

/-- Return traffic of anything but TCP from outside a network, through any port, with the
last source port. -/
def sampleReply : Condition where
  inPorts := ⟨some (KeySet.ofList []), true⟩
  outPorts := ⟨some (KeySet.ofList [⟨7⟩]), false⟩
  protocol := ⟨some 6, true⟩
  source := ⟨some ⟨⟨10, 0, 0, 77⟩, ⟨24, by decide⟩⟩, true⟩
  srcPorts := ⟨⟨0, 65534⟩, true⟩
  returnFlow := true

/-- The condition holds of some packet, although its set of ingress ports is empty. -/
theorem sampleReply_holds : sampleReply.negated = false ∧ ¬sampleReply.NeverHolds := by
  refine ⟨rfl, fun hnever => ?_⟩
  cases (neverHolds_iff sampleReply rfl).1.mp hnever with
  | inPorts h =>
    obtain ⟨ports, -, -, hplain⟩ := h
    exact absurd hplain (by decide)
  | outPorts h =>
    obtain ⟨ports, hports, hnil, -⟩ := h
    obtain rfl := Option.some.inj hports
    exact absurd hnil (by decide)
  | srcPorts h => exact absurd h (by unfold PortClause.Contradictory; decide)
  | dstPorts h => exact absurd h (by unfold PortClause.Contradictory; decide)
  | source h =>
    obtain ⟨net, hnet, hlen, -⟩ := h
    obtain rfl := Option.some.inj hnet
    exact absurd hlen (by decide)
  | dest h =>
    obtain ⟨net, hnet, -⟩ := h
    cases hnet
  | bothDirections hforward => exact absurd hforward (by decide)
  | returnWithoutPorts _ _ hplain => exact absurd hplain (by decide)

end Condition

end FlowRules
