import FlowRules.Condition.Text
import FlowRules.Proofs.Condition.Satisfiable
import FlowRules.Proofs.Eval.Traffic
import Mathlib.Data.List.ReduceOption

/-!
# Conditions that hold of every packet

A condition holds of everything only if each of its clauses does, since a packet that
fails one clause fails the condition whatever the others say. So a clause about a value is
not configured, a configured clause about ports asks for anything but none of them, and a
range is the full one or what is outside an empty one (`Condition.Unconditional`). A
direction is not asked for : it is not found where the cache fails
(`Condition.alwaysHolds_iff`).

The condition without clauses is of this kind. It is recognised by its fields
(`Condition.isMatchAny`), and is the one whose text is a star (`Condition.text_eq_star_iff`).
-/

namespace FlowRules

/-! ## Clauses that are always met -/

/-- A clause is met by everything only if it is not configured, if its test holds of one
thing and fails of another. -/
theorem Clause.wanted_eq_none_of_met {α β : Type} {c : Clause α} {raw : α → β → Prop}
    (hmet : ∀ b, c.Met fun a => raw a b) (hin : ∀ a, ∃ b, raw a b) (hout : ∀ a, ∃ b, ¬raw a b) :
    c.wanted = none := by
  cases hwanted : c.wanted with
  | none => rfl
  | some a =>
    obtain ⟨b, hb⟩ := hin a
    obtain ⟨b', hb'⟩ := hout a
    rcases hmet b a hwanted with ⟨-, hplain⟩ | ⟨-, hnot⟩
    · rcases hmet b' a hwanted with ⟨hyes, -⟩ | ⟨hinv, -⟩
      · exact absurd hyes hb'
      · exact absurd hinv hplain
    · exact absurd hb hnot

/-- Does a configured clause ask for a port that is none of no ports? -/
def Clause.AsksForAny (c : Clause (KeySet PortId)) : Prop :=
  ∀ ports, c.wanted = some ports → Table.keys ports = [] ∧ c.inverted = true

/-- Does a configured clause ask for the network of all addresses? -/
def Clause.IncludesAll (c : Clause Network) : Prop :=
  ∀ net, c.wanted = some net → net.len.val = 0 ∧ c.inverted = false

/-- Does the clause ask for a port in the full range, or outside an empty one? -/
def PortClause.IncludesAll (c : PortClause) : Prop :=
  (c.range.first = 0 ∧ c.range.last = 65535 ∧ c.inverted = false) ∨
    (c.range.last.toNat < c.range.first.toNat ∧ c.inverted = true)

theorem Clause.met_ports_iff {c : Clause (KeySet PortId)} :
    (∀ port : Option PortId, c.Met fun ports => ∃ k, port = some k ∧ k ∈ Table.keys ports) ↔
      c.AsksForAny := by
  constructor
  · intro hmet ports hwanted
    have hinv : c.inverted = true := by
      rcases hmet none ports hwanted with ⟨⟨k, hk, -⟩, -⟩ | ⟨hinv, -⟩
      · cases hk
      · exact hinv
    refine ⟨List.eq_nil_iff_forall_not_mem.mpr fun k hk => ?_, hinv⟩
    rcases hmet (some k) ports hwanted with ⟨-, hplain⟩ | ⟨-, hnot⟩
    · exact hplain hinv
    · exact hnot ⟨k, rfl, hk⟩
  · intro hany port ports hwanted
    obtain ⟨hnil, hinv⟩ := hany ports hwanted
    refine Or.inr ⟨hinv, ?_⟩
    rintro ⟨k, -, hk⟩
    exact List.not_mem_nil (hnil ▸ hk)

theorem Clause.met_address_iff {c : Clause Network} :
    (∀ ip : Option Ipv4, c.Met fun net => net.Reaches ip) ↔ c.IncludesAll := by
  constructor
  · intro hmet net hwanted
    have hplain : c.inverted = false := by
      rcases hmet (some net.address) net hwanted with ⟨-, hplain⟩ | ⟨-, hnot⟩
      · simpa using hplain
      · exact absurd (Or.inr ⟨_, rfl, rfl⟩) hnot
    refine ⟨?_, hplain⟩
    rcases hmet none net hwanted with ⟨hlen | ⟨a, ha, -⟩, -⟩ | ⟨hinv, -⟩
    · exact hlen
    · cases ha
    · exact absurd (hplain.symm.trans hinv) Bool.false_ne_true
  · intro hall ip net hwanted
    obtain ⟨hlen, hplain⟩ := hall net hwanted
    exact Or.inl ⟨Or.inl hlen, by simp [hplain]⟩

theorem PortClause.met_iff {c : PortClause} :
    (∀ port : Option Port, c.Met port) ↔ c.IncludesAll := by
  constructor
  · intro hmet
    rcases hmet none with ⟨⟨hfirst, hlast⟩ | ⟨p, hp, -⟩, hplain⟩ | ⟨hinv, -⟩
    · exact Or.inl ⟨hfirst, hlast, by simpa using hplain⟩
    · cases hp
    · refine Or.inr ⟨Nat.lt_of_not_le fun hle => ?_, hinv⟩
      rcases hmet (some c.range.first) with ⟨-, hplain⟩ | ⟨-, hnot⟩
      · exact hplain hinv
      · exact hnot (Or.inr ⟨_, rfl, Nat.le_refl _, hle⟩)
  · rintro (⟨hfirst, hlast, hplain⟩ | ⟨hempty, hinv⟩) port
    · exact Or.inl ⟨Or.inl ⟨hfirst, hlast⟩, by simp [hplain]⟩
    · refine Or.inr ⟨hinv, ?_⟩
      rintro (⟨hfirst, hlast⟩ | ⟨p, -, hge, hle⟩)
      · rw [hfirst, hlast] at hempty
        exact absurd hempty (by decide)
      · omega

theorem Clause.asksForAny_of_unset {c : Clause (KeySet PortId)} (h : c.wanted = none) :
    c.AsksForAny := fun ports hports => by rw [h] at hports; cases hports

theorem Clause.includesAll_of_unset {c : Clause Network} (h : c.wanted = none) : c.IncludesAll :=
  fun net hnet => by rw [h] at hnet; cases hnet

theorem PortClause.includesAll_of_isDefault {c : PortClause} (h : c.isDefault = true) :
    c.IncludesAll := by
  simp only [isDefault, PortRange.isFull, Bool.and_eq_true, decide_eq_true_eq,
    Bool.not_eq_true'] at h
  exact Or.inl ⟨h.1.1, h.1.2, h.2⟩

/-! ## What is written of a clause -/

theorem Clause.text?_eq_none_iff {α : Type} {name : String} {value : α → String} {c : Clause α} :
    c.text? name value = none ↔ c.wanted = none := by
  simp [text?]

theorem PortClause.text?_eq_none_iff {name : String} {c : PortClause} :
    c.text? name = none ↔ c.isDefault = true := by
  cases h : c.isDefault <;> simp [text?, h]

/-- A clause is written with a sign behind its name. -/
theorem Clause.one_lt_length_of_text? {α : Type} {name text : String} {value : α → String}
    {c : Clause α} (h : c.text? name value = some text) (hname : 0 < name.length) :
    1 < text.length := by
  obtain ⟨a, -, rfl⟩ := Option.map_eq_some_iff.mp h
  have heq : ("=" : String).length = 1 := rfl
  simp only [String.length_append, heq]
  omega

theorem PortClause.one_lt_length_of_text? {name text : String} {c : PortClause}
    (h : c.text? name = some text) (hname : 0 < name.length) : 1 < text.length := by
  unfold text? at h
  split at h
  · cases h
  · obtain rfl := Option.some.inj h
    have heq : ("=" : String).length = 1 := rfl
    simp only [String.length_append, heq]
    omega

theorem length_le_length_intercalate (sep text : String) (texts : List String) :
    text.length ≤ (String.intercalate sep (text :: texts)).length := by
  rw [← String.length_toList, ← String.length_toList, String.toList_intercalate, List.intercalate]
  cases texts <;> simp

namespace Condition

variable {c : Condition}

/-! ## Conditions -/

/-- Does the condition hold of every packet, on each context that knows no direction yet
and whatever the cache does? -/
def AlwaysHolds (c : Condition) : Prop :=
  ∀ (σ : Type) (cache : Cache σ) (mode : ReadMode) (site : Attachment) (p : Packet)
    (s : EvalState σ), s.context.flowState = .untracked →
      (Eval.outcome (c.evaluate cache mode site p) s).1 = .ok true

/-- Does each clause ask for nothing, or for what everything has? -/
structure Unconditional (c : Condition) : Prop where
  forwardFlow : c.forwardFlow = false
  returnFlow : c.returnFlow = false
  group : c.group.wanted = none
  tos : c.tos.wanted = none
  protocol : c.protocol.wanted = none
  inPorts : c.inPorts.AsksForAny
  outPorts : c.outPorts.AsksForAny
  source : c.source.IncludesAll
  dest : c.dest.IncludesAll
  srcPorts : c.srcPorts.IncludesAll
  dstPorts : c.dstPorts.IncludesAll

/-- Every packet meets the clauses, and no direction is asked for. -/
theorem Unconditional.meets (h : c.Unconditional) (site : Attachment) (ctx : Context) (p : Packet) :
    ∀ name, c.Meets site ctx p name
  | .inPorts => Clause.met_ports_iff.mpr h.inPorts ctx.inPort
  | .outPorts => by
    cases site with
    | element => exact Clause.met_ports_iff.mpr h.outPorts ctx.outPort
    | portFilter => exact fun ports hwanted => (h.outPorts ports hwanted).2
  | .group => fun _ hwanted => by rw [h.group] at hwanted; cases hwanted
  | .tos => fun _ hwanted => by rw [h.tos] at hwanted; cases hwanted
  | .protocol => fun _ hwanted => by rw [h.protocol] at hwanted; cases hwanted
  | .source => Clause.met_address_iff.mpr h.source p.source
  | .dest => Clause.met_address_iff.mpr h.dest p.dest
  | .srcPorts => PortClause.met_iff.mpr h.srcPorts p.srcPort
  | .dstPorts => PortClause.met_iff.mpr h.dstPorts p.dstPort

theorem Unconditional.not_wantsDirection (h : c.Unconditional) : ¬c.WantsDirection := by
  rintro (hforward | hreturn)
  · exact Bool.false_ne_true (h.forwardFlow.symm.trans hforward)
  · exact Bool.false_ne_true (h.returnFlow.symm.trans hreturn)

/-- An unconditional condition gives its answer from every state, and leaves it as it is. -/
theorem Unconditional.outcome_evaluate {σ : Type} (h : c.Unconditional) (cache : Cache σ)
    (mode : ReadMode) (site : Attachment) (p : Packet) (s : EvalState σ) :
    Eval.outcome (c.evaluate cache mode site p) s = (.ok !c.negated, s) :=
  (outcome_evaluate_iff ..).mpr (.met (h.meets site s.context p) h.not_wantsDirection)

/-- A condition that holds of everything has clauses that everything meets. -/
theorem AlwaysHolds.meets (h : c.AlwaysHolds) (hc : c.negated = false) (ctx : Context)
    (hnew : ctx.flowState = .untracked) (p : Packet) (name : ClauseName) :
    c.Meets .element ctx p name :=
  ((outcome_eq_true_iff hc).mp
    (h CacheError failingCache .blocking .element p ⟨ctx, .timeout, []⟩ hnew)).1 name

/-- No direction is found of a packet that is tracked, on a cache that fails. -/
theorem AlwaysHolds.not_wantsDirection (h : c.AlwaysHolds) (hc : c.negated = false) :
    ¬c.WantsDirection := by
  intro hwants
  let p : Packet :=
    { etherType := some .ipv4, source := some .any, dest := some .any, protocol := some 6,
      srcPort := some 0, dstPort := some 0 }
  obtain ⟨sig, hsig⟩ : ∃ sig, p.flowSig? = some sig :=
    Packet.exists_flowSig? rfl (Or.inl rfl) rfl rfl rfl rfl
  let s : EvalState CacheError := ⟨{ device := ⟨0⟩ }, .timeout, []⟩
  have hholds := h CacheError failingCache .blocking .element p s rfl
  obtain ⟨state, s', hdir, -⟩ := ((outcome_eq_true_iff hc).mp hholds).2 hwants
  have hfails : Directed failingCache .blocking p s (.error .timeout) _ := .readFails rfl hsig rfl
  have hsame := (Eval.outcome_flowState_of_directed hdir).symm.trans
    (Eval.outcome_flowState_of_directed hfails)
  cases (Prod.mk.inj hsame).1

theorem AlwaysHolds.unconditional (h : c.AlwaysHolds) (hc : c.negated = false) :
    c.Unconditional := by
  have hflow := h.not_wantsDirection hc
  have hcontext := fun ctx hnew => h.meets hc ctx hnew {}
  have hpacket := fun p => h.meets hc { device := ⟨0⟩ } rfl p
  exact {
    forwardFlow := by simpa using fun hforward => hflow (Or.inl hforward)
    returnFlow := by simpa using fun hreturn => hflow (Or.inr hreturn)
    group := Clause.wanted_eq_none_of_met
      (fun groups => hcontext { device := ⟨0⟩, groups } rfl .group)
      (fun group => ⟨KeySet.ofList [group], List.mem_singleton_self group⟩)
      fun _ => ⟨.empty, List.not_mem_nil⟩
    tos := Clause.wanted_eq_none_of_met (fun tos => hpacket { tos } .tos)
      (fun tos => ⟨some tos, rfl⟩) fun _ => ⟨none, by simp⟩
    protocol := Clause.wanted_eq_none_of_met (fun protocol => hpacket { protocol } .protocol)
      (fun protocol => ⟨some protocol, rfl⟩) fun _ => ⟨none, by simp⟩
    inPorts := Clause.met_ports_iff.mp fun inPort => hcontext { device := ⟨0⟩, inPort } rfl .inPorts
    outPorts := Clause.met_ports_iff.mp fun outPort =>
      hcontext { device := ⟨0⟩, outPort } rfl .outPorts
    source := Clause.met_address_iff.mp fun source => hpacket { source } .source
    dest := Clause.met_address_iff.mp fun dest => hpacket { dest } .dest
    srcPorts := PortClause.met_iff.mp fun srcPort => hpacket { srcPort } .srcPorts
    dstPorts := PortClause.met_iff.mp fun dstPort => hpacket { dstPort } .dstPorts }

/-! ## The condition without clauses -/

theorem isMatchAny_iff_unset : c.isMatchAny = true ↔ c.negated = false ∧ c.clauses = [] := by
  have hflag (flag : Bool) (text : String) :
      (if flag then some text else none) = none ↔ flag = false := by
    cases flag <;> simp
  simp only [isMatchAny, needsFlowState, clauses, List.reduceOption, List.filterMap_eq_nil_iff,
    List.forall_mem_cons, id_eq, Clause.text?_eq_none_iff, PortClause.text?_eq_none_iff, hflag]
  simp [and_assoc]

/-- A condition without clauses and negation has no restriction. -/
theorem unconditional_of_isMatchAny (h : c.isMatchAny = true) : c.Unconditional := by
  simp only [isMatchAny, needsFlowState, Bool.and_eq_true, Bool.not_eq_true',
    Option.isNone_iff_eq_none, Bool.or_eq_false_iff] at h
  obtain ⟨⟨⟨⟨⟨⟨⟨⟨⟨⟨-, hin⟩, hout⟩, hgroup⟩, htos⟩, hprotocol⟩, hsource⟩, hdest⟩, hsrc⟩, hdst⟩,
    hforward, hreturn⟩ := h
  exact {
    forwardFlow := hforward
    returnFlow := hreturn
    group := hgroup
    tos := htos
    protocol := hprotocol
    inPorts := Clause.asksForAny_of_unset hin
    outPorts := Clause.asksForAny_of_unset hout
    source := Clause.includesAll_of_unset hsource
    dest := Clause.includesAll_of_unset hdest
    srcPorts := PortClause.includesAll_of_isDefault hsrc
    dstPorts := PortClause.includesAll_of_isDefault hdst }

theorem one_lt_length_of_mem_clauses {text : String} (h : text ∈ c.clauses) : 1 < text.length := by
  simp only [clauses, List.reduceOption, List.mem_filterMap, id_eq, exists_eq_right,
    List.mem_cons, List.not_mem_nil, or_false] at h
  rcases h with h | h | h | h | h | h | h | h | h | h | h
  · exact Clause.one_lt_length_of_text? h.symm (by decide)
  · exact Clause.one_lt_length_of_text? h.symm (by decide)
  · exact Clause.one_lt_length_of_text? h.symm (by decide)
  · exact Clause.one_lt_length_of_text? h.symm (by decide)
  · exact Clause.one_lt_length_of_text? h.symm (by decide)
  · exact Clause.one_lt_length_of_text? h.symm (by decide)
  · exact Clause.one_lt_length_of_text? h.symm (by decide)
  · exact PortClause.one_lt_length_of_text? h.symm (by decide)
  · exact PortClause.one_lt_length_of_text? h.symm (by decide)
  · split at h <;> cases h
    decide
  · split at h <;> cases h
    decide

/-- The star is the text of the condition without clauses alone. -/
theorem text_eq_star_iff : c.text = "*" ↔ c.isMatchAny = true := by
  rw [isMatchAny_iff_unset]
  constructor
  · intro h
    have hlength : c.text.length = 1 := congrArg String.length h
    cases hc : c.negated with
    | true =>
      have hopen : ("!(" : String).length = 2 := rfl
      simp only [text, hc, if_true, String.length_append, hopen] at hlength
      omega
    | false =>
      refine ⟨rfl, ?_⟩
      cases hclauses : c.clauses with
      | nil => rfl
      | cons text texts =>
        have hlong := one_lt_length_of_mem_clauses (hclauses ▸ List.mem_cons_self ..)
        have hpart := length_le_length_intercalate " " text texts
        simp only [Condition.text, hc, hclauses, List.isEmpty_cons, Bool.false_eq_true,
          if_false] at hlength
        omega
  · rintro ⟨hc, hnil⟩
    simp [text, hc, hnil]

/-! ## All of it -/

/-- A condition that is not negated holds of every packet, on every context that knows no
direction yet and whatever the cache does, exactly if it is unconditional. The condition
without clauses is, and is evaluated without any effect : the state is left as it is, and
the cache is not asked. It is also the one whose text is a star. -/
theorem alwaysHolds_iff (c : Condition) :
    (c.negated = false → (c.AlwaysHolds ↔ c.Unconditional)) ∧
    (c.isMatchAny = true → (c.negated = false ∧ c.Unconditional) ∧
      ∀ (σ : Type) (cache : Cache σ) (mode : ReadMode) (site : Attachment) (p : Packet)
        (s : EvalState σ) (past : List Access),
        Eval.outcome (c.evaluate cache mode site p) s = (.ok true, s) ∧
        Eval.outcome (c.evaluate cache.observed mode site p) (s.observed past) =
          (.ok true, s.observed past)) ∧
    (c.isMatchAny = true ↔ c.text = "*") := by
  refine ⟨fun hc => ⟨fun h => h.unconditional hc, ?_⟩, fun hany => ?_, text_eq_star_iff.symm⟩
  · intro h σ cache mode site p s _
    rw [h.outcome_evaluate, hc]
    rfl
  · have hc := (isMatchAny_iff_unset.mp hany).1
    have h := unconditional_of_isMatchAny hany
    refine ⟨⟨hc, h⟩, fun σ cache mode site p s past => ?_⟩
    rw [h.outcome_evaluate, h.outcome_evaluate, hc]
    exact ⟨rfl, rfl⟩

/-- From all ports but none, from every address, and not through the ports of an empty
range. -/
def sampleAnything : Condition where
  inPorts := ⟨some (KeySet.ofList []), true⟩
  source := ⟨some ⟨⟨10, 0, 0, 77⟩, .zero⟩, false⟩
  dstPorts := ⟨⟨7, 6⟩, true⟩

/-- The condition holds of every packet, and says more than the one without clauses. -/
theorem sampleAnything_holds :
    sampleAnything.negated = false ∧ sampleAnything.AlwaysHolds ∧ sampleAnything.text ≠ "*" := by
  obtain ⟨hiff, -, htext⟩ := alwaysHolds_iff sampleAnything
  refine ⟨rfl, (hiff rfl).mpr ?_, fun hstar => ?_⟩
  · exact {
      forwardFlow := rfl
      returnFlow := rfl
      group := rfl
      tos := rfl
      protocol := rfl
      inPorts := fun ports hports => by cases hports; exact ⟨rfl, rfl⟩
      outPorts := fun ports hports => by cases hports
      source := fun net hnet => by cases hnet; exact ⟨rfl, rfl⟩
      dest := fun net hnet => by cases hnet
      srcPorts := Or.inl ⟨rfl, rfl, rfl⟩
      dstPorts := Or.inr ⟨by decide, rfl⟩ }
  · exact absurd (htext.mpr hstar) (by decide)

end Condition

end FlowRules
