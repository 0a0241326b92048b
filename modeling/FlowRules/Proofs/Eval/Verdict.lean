import FlowRules.Eval.Matching
import FlowRules.Proofs.Address.Number
import FlowRules.Proofs.Eval.Direction
import Mathlib.Logic.Basic

/-!
# What a condition says of a packet

The clauses of a condition are independent tests. `Condition.Meets` says of each of
them, by its name alone, what it asks of the path and the packet : membership in the
listed keys, equality of fields, quotients of addresses and bounds of ports. A clause
that is not configured asks nothing, and the flag of a configured one turns it round.

`Condition.Verdict` gives the result of a whole evaluation by rules. They ask whether
all clauses are met, in no order, and look at the direction of the flow
(`Directed`) only if a direction is wanted; a failure of the cache stands as it is,
whether the condition is negated or not. `Condition.outcome_evaluate_iff` says that
evaluation follows these rules on every packet, context and cache.
-/

namespace FlowRules

/-! ## Clauses -/

/-- A clause asks nothing if it is not configured; else its test must hold, or must
fail if the clause is inverted. -/
def Clause.Met {α : Type} (c : Clause α) (raw : α → Prop) : Prop :=
  ∀ a, c.wanted = some a → Xor (raw a) (c.inverted = true)

/-- Every packet is in the full range, and one with a port in a range around it. -/
def PortRange.Admits (r : PortRange) (port : Option Port) : Prop :=
  (r.first = 0 ∧ r.last = 65535) ∨
    ∃ p, port = some p ∧ r.first.toNat ≤ p.toNat ∧ p.toNat ≤ r.last.toNat

/-- A range is always configured. -/
def PortClause.Met (c : PortClause) (port : Option Port) : Prop :=
  Xor (c.range.Admits port) (c.inverted = true)

/-- Every packet is in a network of length zero, and one with an address in a network
whose address has the same quotient by the size of a block. -/
def Network.Reaches (net : Network) (ip : Option Ipv4) : Prop :=
  net.len.val = 0 ∨ ∃ a, ip = some a ∧
    a.number / 2 ^ (32 - net.len.val) = net.address.number / 2 ^ (32 - net.len.val)

theorem Clause.holds_iff_met {α : Type} {c : Clause α} {test : α → Bool} {raw : α → Prop}
    (h : ∀ a, test a = true ↔ raw a) : c.holds test = true ↔ c.Met raw := by
  unfold holds Met
  cases hw : c.wanted with
  | none => simp
  | some a =>
    have ha := h a
    cases ht : test a <;> cases hi : c.inverted <;> simp_all [Xor]

theorem PortRange.admits_iff (r : PortRange) (port : Option Port) :
    r.admits port = true ↔ r.Admits port := by
  simp [admits, Admits, isFull, contains, Option.any_eq_true]

theorem PortClause.holds_iff_met {c : PortClause} {port : Option Port} :
    c.holds port = true ↔ c.Met port := by
  have h := PortRange.admits_iff c.range port
  unfold holds Met
  cases ha : c.range.admits port <;> cases hi : c.inverted <;> simp_all [Xor]

theorem Condition.inNetwork_iff {net : Network} {ip : Option Ipv4} :
    inNetwork net ip = true ↔ net.Reaches ip := by
  simp [inNetwork, Network.Reaches, Option.any_eq_true, Network.contains_iff]

/-- The keys of a set are the keys it lists. -/
theorem KeySet.contains_iff {κ : Type} [Ord κ] [Std.LawfulEqOrd κ] {s : KeySet κ} {k : κ} :
    Table.contains s k = true ↔ k ∈ Table.keys s := by
  rw [Table.contains, Option.isSome_iff_exists, Table.keys, List.mem_map]
  constructor
  · rintro ⟨v, hv⟩
    exact ⟨(k, v), Table.get?_eq_some_iff.mp hv, rfl⟩
  · rintro ⟨⟨k', v⟩, hmem, rfl⟩
    exact ⟨v, Table.get?_eq_some_iff.mpr hmem⟩

theorem KeySet.any_contains_iff {κ : Type} [Ord κ] [Std.LawfulEqOrd κ] {s : KeySet κ}
    {key : Option κ} : (key.any fun k => Table.contains s k) = true ↔
      ∃ k, key = some k ∧ k ∈ Table.keys s := by
  rw [Option.any_eq_true]
  exact exists_congr fun k => and_congr_right fun _ => contains_iff

/-! ## All clauses of a condition -/

/-- The clauses that look at the context and the packet alone. -/
inductive ClauseName where
  | inPorts
  | outPorts
  | group
  | tos
  | protocol
  | source
  | dest
  | srcPorts
  | dstPorts

namespace Condition

/-- What the clause of that name asks. On a port filter the packet leaves through the
port of the filter, and a configured clause about egress ports is its own flag. -/
def Meets (c : Condition) (site : Attachment) (ctx : Context) (p : Packet) : ClauseName → Prop
  | .inPorts => c.inPorts.Met fun ports => ∃ port, ctx.inPort = some port ∧ port ∈ Table.keys ports
  | .outPorts =>
    match site with
    | .element =>
      c.outPorts.Met fun ports => ∃ port, ctx.outPort = some port ∧ port ∈ Table.keys ports
    | .portFilter => ∀ ports, c.outPorts.wanted = some ports → c.outPorts.inverted = true
  | .group => c.group.Met fun group => group ∈ Table.keys ctx.groups
  | .tos => c.tos.Met fun tos => p.tos = some tos
  | .protocol => c.protocol.Met fun protocol => p.protocol = some protocol
  | .source => c.source.Met fun net => net.Reaches p.source
  | .dest => c.dest.Met fun net => net.Reaches p.dest
  | .srcPorts => c.srcPorts.Met p.srcPort
  | .dstPorts => c.dstPorts.Met p.dstPort

variable {c : Condition} {site : Attachment} {ctx : Context} {p : Packet}

theorem outPortsHold_iff : c.outPortsHold site ctx = true ↔ c.Meets site ctx p .outPorts := by
  cases site with
  | element => exact Clause.holds_iff_met fun _ => KeySet.any_contains_iff
  | portFilter =>
    unfold outPortsHold Clause.holds Meets
    cases hw : c.outPorts.wanted <;> simp

/-- The clauses that are tested one after the other hold if each is met. -/
theorem stateless_iff : c.stateless site ctx p = true ↔ ∀ name, c.Meets site ctx p name := by
  have hin : c.inPortsHold ctx = true ↔ c.Meets site ctx p .inPorts :=
    Clause.holds_iff_met fun _ => KeySet.any_contains_iff
  have hout : c.outPortsHold site ctx = true ↔ c.Meets site ctx p .outPorts := outPortsHold_iff
  have hgroup : c.group.holds ctx.groups.contains = true ↔ c.Meets site ctx p .group :=
    Clause.holds_iff_met fun _ => KeySet.contains_iff
  have htos : c.tos.holds (fun tos => p.tos = some tos) = true ↔ c.Meets site ctx p .tos :=
    Clause.holds_iff_met fun _ => decide_eq_true_iff
  have hprotocol : c.protocol.holds (fun protocol => p.protocol = some protocol) = true ↔
      c.Meets site ctx p .protocol := Clause.holds_iff_met fun _ => decide_eq_true_iff
  have hsource : c.source.holds (inNetwork · p.source) = true ↔ c.Meets site ctx p .source :=
    Clause.holds_iff_met fun _ => inNetwork_iff
  have hdest : c.dest.holds (inNetwork · p.dest) = true ↔ c.Meets site ctx p .dest :=
    Clause.holds_iff_met fun _ => inNetwork_iff
  have hsrc : c.srcPorts.holds p.srcPort = true ↔ c.Meets site ctx p .srcPorts :=
    PortClause.holds_iff_met
  have hdst : c.dstPorts.holds p.dstPort = true ↔ c.Meets site ctx p .dstPorts :=
    PortClause.holds_iff_met
  simp only [stateless, Bool.and_eq_true, hin, hout, hgroup, htos, hprotocol, hsource, hdest,
    hsrc, hdst]
  constructor
  · rintro ⟨⟨⟨⟨⟨⟨⟨⟨h₁, h₂⟩, h₃⟩, h₄⟩, h₅⟩, h₆⟩, h₇⟩, h₈⟩, h₉⟩ name
    cases name <;> assumption
  · intro h
    exact ⟨⟨⟨⟨⟨⟨⟨⟨h _, h _⟩, h _⟩, h _⟩, h _⟩, h _⟩, h _⟩, h _⟩, h _⟩

/-! ## The direction of the flow -/

/-- Does the condition want the flow to have a direction? -/
def WantsDirection (c : Condition) : Prop := c.forwardFlow = true ∨ c.returnFlow = true

/-- The direction is each one that is wanted. -/
def Suits (c : Condition) (state : FlowState) : Prop :=
  (c.forwardFlow = true → state = .forward) ∧ (c.returnFlow = true → state = .returning)

theorem needsFlowState_iff : c.needsFlowState = true ↔ c.WantsDirection := by
  simp [needsFlowState, WantsDirection]

theorem flowHolds_iff {state : FlowState} : c.flowHolds state = true ↔ c.Suits state := by
  simp only [flowHolds, Suits, Bool.and_eq_true, Bool.or_eq_true, Bool.not_eq_true',
    decide_eq_true_eq]
  cases c.forwardFlow <;> cases c.returnFlow <;> simp

/-! ## The whole condition -/

/-- The result of evaluating the condition from a state, and the state after it. -/
inductive Verdict {σ : Type} (cache : Cache σ) (mode : ReadMode) (c : Condition)
    (site : Attachment) (p : Packet) (s : EvalState σ) :
    Except CacheError Bool → EvalState σ → Prop where
  /-- Some clause is not met. The cache is not asked. -/
  | unmet (hclauses : ¬∀ name, c.Meets site s.context p name) :
      Verdict cache mode c site p s (.ok c.negated) s
  /-- All clauses are met, and no direction is wanted. The cache is not asked. -/
  | met (hclauses : ∀ name, c.Meets site s.context p name) (hnone : ¬c.WantsDirection) :
      Verdict cache mode c site p s (.ok (!c.negated)) s
  /-- The direction cannot be found. The failure is not inverted. -/
  | failed (hclauses : ∀ name, c.Meets site s.context p name) (hwants : c.WantsDirection)
      {e : CacheError} {s' : EvalState σ} (hdir : Directed cache mode p s (.error e) s') :
      Verdict cache mode c site p s (.error e) s'
  | suited (hclauses : ∀ name, c.Meets site s.context p name) (hwants : c.WantsDirection)
      {state : FlowState} {s' : EvalState σ} (hdir : Directed cache mode p s (.ok state) s')
      (hsuits : c.Suits state) : Verdict cache mode c site p s (.ok (!c.negated)) s'
  | unsuited (hclauses : ∀ name, c.Meets site s.context p name) (hwants : c.WantsDirection)
      {state : FlowState} {s' : EvalState σ} (hdir : Directed cache mode p s (.ok state) s')
      (hsuits : ¬c.Suits state) : Verdict cache mode c site p s (.ok c.negated) s'

variable {σ : Type} {cache : Cache σ} {mode : ReadMode} {s : EvalState σ}

theorem outcome_evaluate_of_unmet (h : c.stateless site s.context p = false) :
    Eval.outcome (c.evaluate cache mode site p) s = (.ok c.negated, s) := by
  rw [evaluate_eq_blocking, evaluateBlocking, Eval.outcome_bind, Eval.outcome_get]
  simp [h, Eval.outcome_pure]

theorem outcome_evaluate_of_met (h : c.stateless site s.context p = true)
    (hnone : c.needsFlowState = false) :
    Eval.outcome (c.evaluate cache mode site p) s = (.ok (!c.negated), s) := by
  rw [evaluate_eq_blocking, evaluateBlocking, Eval.outcome_bind, Eval.outcome_get]
  simp [h, hnone, Eval.outcome_pure]

/-- If the clauses hold and a direction is wanted, it is looked for, and decides. -/
theorem outcome_evaluate_of_directed (h : c.stateless site s.context p = true)
    (hwants : c.needsFlowState = true) {r : Except CacheError FlowState} {s' : EvalState σ}
    (hdir : Directed cache mode p s r s') :
    Eval.outcome (c.evaluate cache mode site p) s =
      (r.map fun state => if c.flowHolds state then !c.negated else c.negated, s') := by
  have hflow := Eval.outcome_flowState_of_directed hdir
  rw [Eval.flowState_eq_blocking] at hflow
  rw [evaluate_eq_blocking, evaluateBlocking, Eval.outcome_bind, Eval.outcome_get]
  simp only [h, hwants, Bool.not_true, Bool.false_eq_true, if_false, if_true]
  rw [Eval.outcome_bind, hflow]
  cases r with
  | error e => rfl
  | ok state => cases hs : c.flowHolds state <;> simp [hs, Except.map, Eval.outcome_pure]

/-- An evaluation sees a condition and its site only through whether the clauses hold, the
directions that are wanted, and the negation. -/
theorem evaluate_congr {d : Condition} {site' : Attachment} (cache : Cache σ) (mode : ReadMode)
    (hclauses : ∀ ctx, c.stateless site ctx p = d.stateless site' ctx p)
    (hnegated : c.negated = d.negated) (hforward : c.forwardFlow = d.forwardFlow)
    (hreturn : c.returnFlow = d.returnFlow) :
    c.evaluate cache mode site p = d.evaluate cache mode site' p := by
  have hneeds : c.needsFlowState = d.needsFlowState := by
    rw [needsFlowState, needsFlowState, hforward, hreturn]
  have hflow : c.flowHolds = d.flowHolds := by
    funext state
    rw [flowHolds, flowHolds, hforward, hreturn]
  simp only [evaluate_eq_blocking, evaluateBlocking, hclauses, hnegated, hneeds, hflow]

/-- Evaluation gives a result and a state if the rules do : the clauses are tested in no
order, and the direction of the flow is looked for only after them. -/
theorem outcome_evaluate_iff (cache : Cache σ) (mode : ReadMode) (c : Condition)
    (site : Attachment) (p : Packet) (s : EvalState σ) (r : Except CacheError Bool)
    (s' : EvalState σ) :
    Eval.outcome (c.evaluate cache mode site p) s = (r, s') ↔
      Verdict cache mode c site p s r s' := by
  constructor
  · intro h
    cases hst : c.stateless site s.context p with
    | false =>
      rw [outcome_evaluate_of_unmet hst] at h
      obtain ⟨rfl, rfl⟩ := Prod.mk.inj h
      refine .unmet fun hall => ?_
      simp [stateless_iff.mpr hall] at hst
    | true =>
      have hclauses := stateless_iff.mp hst
      cases hwants : c.needsFlowState with
      | false =>
        rw [outcome_evaluate_of_met hst hwants] at h
        obtain ⟨rfl, rfl⟩ := Prod.mk.inj h
        exact .met hclauses (by simp [← needsFlowState_iff, hwants])
      | true =>
        obtain ⟨d, s₁, hdir⟩ := Eval.exists_directed cache mode p s
        rw [outcome_evaluate_of_directed hst hwants hdir] at h
        obtain ⟨rfl, rfl⟩ := Prod.mk.inj h
        have hw := needsFlowState_iff.mp hwants
        cases d with
        | error e => exact .failed hclauses hw hdir
        | ok state =>
          cases hs : c.flowHolds state with
          | true =>
            simpa [Except.map, hs] using
              Verdict.suited hclauses hw hdir (flowHolds_iff.mp hs)
          | false =>
            simpa [Except.map, hs] using
              Verdict.unsuited hclauses hw hdir (by simp [← flowHolds_iff, hs])
  · intro h
    cases h with
    | unmet hclauses =>
      exact outcome_evaluate_of_unmet (by simpa [← stateless_iff] using hclauses)
    | met hclauses hnone =>
      exact outcome_evaluate_of_met (stateless_iff.mpr hclauses)
        (by simpa [← needsFlowState_iff] using hnone)
    | failed hclauses hwants hdir =>
      exact outcome_evaluate_of_directed (stateless_iff.mpr hclauses)
        (needsFlowState_iff.mpr hwants) hdir
    | suited hclauses hwants hdir hsuits =>
      rw [outcome_evaluate_of_directed (stateless_iff.mpr hclauses)
        (needsFlowState_iff.mpr hwants) hdir]
      simp [Except.map, flowHolds_iff.mpr hsuits]
    | unsuited hclauses hwants hdir hsuits =>
      rw [outcome_evaluate_of_directed (stateless_iff.mpr hclauses)
        (needsFlowState_iff.mpr hwants) hdir]
      simp [Except.map, Bool.eq_false_iff.mpr (fun h => hsuits (flowHolds_iff.mp h))]

end Condition

end FlowRules
