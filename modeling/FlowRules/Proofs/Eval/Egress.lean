import FlowRules.Proofs.Eval.Failure

/-!
# Port filters do not look at the egress port

A condition on a port filter tests a packet that leaves through that port. Neither the
egress port of the context (`EvalState.leavingBy`) nor the ports that a configured clause
lists change what is found, what is asked of the cache, or what is reported : the search for
a direction does not see the egress port either (`Directed.leavingBy`). Only whether the
clause is configured and inverted counts. `Condition.portFilter_ignores_egress` puts this
together.
-/

namespace FlowRules

variable {σ : Type}

/-! ## Another egress port -/

/-- The state with another egress port on the context, or with none. -/
def EvalState.leavingBy (s : EvalState σ) (port : Option PortId) : EvalState σ :=
  { s with context := { s.context with outPort := port } }

theorem EvalState.leavingBy_reported (s : EvalState σ) (key : String) (e : CacheError)
    (port : Option PortId) :
    (Eval.reported s key e).leavingBy port = Eval.reported (s.leavingBy port) key e := by
  rw [Eval.reported_eq, Eval.reported_eq]
  rfl

/-- The direction of a flow is found whatever the egress port is. -/
theorem Directed.leavingBy {cache : Cache σ} {mode : ReadMode} {p : Packet} {s s' : EvalState σ}
    {r : Except CacheError FlowState} (h : Directed cache mode p s r s') (port : Option PortId) :
    Directed cache mode p (s.leavingBy port) r (s'.leavingBy port) := by
  cases h with
  | known hknown => exact .known hknown
  | noSignature hnew hsig => exact .noSignature hnew hsig
  | readFails hnew hsig hread =>
    rw [EvalState.leavingBy_reported]
    exact .readFails hnew hsig hread
  | marked hnew hsig hread => exact .marked hnew hsig hread
  | writeFails hnew hsig hread hvalue hwrite =>
    rw [EvalState.leavingBy_reported]
    exact .writeFails hnew hsig hread hvalue hwrite
  | unmarked hnew hsig hread hvalue hwrite => exact .unmarked hnew hsig hread hvalue hwrite

namespace Condition

/-- On a port filter no clause looks at the egress port. -/
theorem stateless_portFilter (c : Condition) (ctx : Context) (p : Packet) (port : Option PortId) :
    c.stateless .portFilter { ctx with outPort := port } p = c.stateless .portFilter ctx p := rfl

/-- On a port filter an evaluation goes the same way whatever the egress port is. -/
theorem outcome_evaluate_leavingBy (cache : Cache σ) (mode : ReadMode) (c : Condition) (p : Packet)
    (s : EvalState σ) (port : Option PortId) :
    Eval.outcome (c.evaluate cache mode .portFilter p) (s.leavingBy port) =
      ((Eval.outcome (c.evaluate cache mode .portFilter p) s).1,
        (Eval.outcome (c.evaluate cache mode .portFilter p) s).2.leavingBy port) := by
  have hsame : c.stateless .portFilter (s.leavingBy port).context p =
      c.stateless .portFilter s.context p := stateless_portFilter c s.context p port
  cases hst : c.stateless .portFilter s.context p with
  | false => rw [outcome_evaluate_of_unmet (hsame.trans hst), outcome_evaluate_of_unmet hst]
  | true =>
    cases hwants : c.needsFlowState with
    | false =>
      rw [outcome_evaluate_of_met (hsame.trans hst) hwants, outcome_evaluate_of_met hst hwants]
    | true =>
      obtain ⟨r, s', hdir⟩ := Eval.exists_directed cache mode p s
      rw [outcome_evaluate_of_directed (hsame.trans hst) hwants (hdir.leavingBy port),
        outcome_evaluate_of_directed hst hwants hdir]

/-! ## Another clause about egress ports -/

/-- The condition with another clause about egress ports. -/
def withEgress (c : Condition) (clause : Clause (KeySet PortId)) : Condition :=
  { c with outPorts := clause }

theorem evaluate_withEgress (cache : Cache σ) (mode : ReadMode) (c : Condition)
    {clause clause' : Clause (KeySet PortId)} {site site' : Attachment} {p : Packet}
    (h : ∀ ctx, (c.withEgress clause).outPortsHold site ctx =
      (c.withEgress clause').outPortsHold site' ctx) :
    (c.withEgress clause).evaluate cache mode site p =
      (c.withEgress clause').evaluate cache mode site' p := by
  refine evaluate_congr cache mode (fun ctx => ?_) rfl rfl rfl
  unfold stateless
  rw [h]
  rfl

/-- On a port filter a condition asks for nothing that has to do with egress ports. Another
egress port on the context, or another set of listed ports, changes neither the result, nor
what is asked of the cache, nor the log, nor the direction that is settled; the cache may
be one under observation. Listed ports that are not inverted are met by no packet, and the
cache is not asked; inverted ones are as good as none. If no ports are configured, the
condition does the same wherever it is attached. -/
theorem portFilter_ignores_egress (cache : Cache σ) (mode : ReadMode) (c : Condition)
    (p : Packet) :
    (∀ (s : EvalState σ) (port : Option PortId),
      Eval.outcome (c.evaluate cache mode .portFilter p) (s.leavingBy port) =
        ((Eval.outcome (c.evaluate cache mode .portFilter p) s).1,
          (Eval.outcome (c.evaluate cache mode .portFilter p) s).2.leavingBy port)) ∧
    (∀ (ports ports' : KeySet PortId) (inverted : Bool),
      (c.withEgress ⟨some ports, inverted⟩).evaluate cache mode .portFilter p =
        (c.withEgress ⟨some ports', inverted⟩).evaluate cache mode .portFilter p) ∧
    (∀ (ports : KeySet PortId) (s : EvalState σ) (past : List Access),
      Eval.outcome ((c.withEgress ⟨some ports, false⟩).evaluate cache mode .portFilter p) s =
        (.ok c.negated, s) ∧
      Eval.outcome ((c.withEgress ⟨some ports, false⟩).evaluate cache.observed mode .portFilter p)
        (s.observed past) = (.ok c.negated, s.observed past)) ∧
    (∀ (ports : KeySet PortId) (inverted : Bool),
      (c.withEgress ⟨some ports, true⟩).evaluate cache mode .portFilter p =
        (c.withEgress ⟨none, inverted⟩).evaluate cache mode .portFilter p) ∧
    ∀ inverted : Bool,
      (c.withEgress ⟨none, inverted⟩).evaluate cache mode .portFilter p =
        (c.withEgress ⟨none, inverted⟩).evaluate cache mode .element p := by
  refine ⟨outcome_evaluate_leavingBy cache mode c p, fun ports ports' inverted => ?_,
    fun ports s past => ?_, fun ports inverted => ?_, fun inverted => ?_⟩
  · exact evaluate_withEgress cache mode c fun _ => rfl
  · have hrefused : ∀ ctx, (c.withEgress ⟨some ports, false⟩).stateless .portFilter ctx p =
        false := by
      intro ctx
      simp [stateless, outPortsHold, withEgress, Clause.holds]
    exact ⟨outcome_evaluate_of_unmet (hrefused _), outcome_evaluate_of_unmet (hrefused _)⟩
  · exact evaluate_withEgress cache mode c fun _ => rfl
  · exact evaluate_withEgress cache mode c fun _ => rfl

end Condition

end FlowRules
