import FlowRules.Proofs.Eval.Traffic
import FlowRules.Proofs.Eval.Verdict

/-!
# Calls made of a context

A `ContextCall` is anything a simulation can ask of its context on the way of a packet :
to evaluate a condition, to tell the direction of a flow, or to learn a port. A call either
comes to look for the direction of a packet's flow (`ContextCall.LooksFor`), and then its
result is that of the look-up in the call's own terms (`outcome_perform_of_looksFor`), or
it has nothing to do with the cache (`outcome_perform_of_idle`).
-/

namespace FlowRules

/-- A call made of a context. -/
inductive ContextCall where
  | evaluate (mode : ReadMode) (c : Condition) (site : Attachment) (p : Packet)
  | flowState (mode : ReadMode) (p : Packet)
  | isForwardFlow (p : Packet)
  | setInPort (port : Option PortId)
  | setOutPort (port : Option PortId)

/-- What a call answers. -/
inductive CallAnswer where
  | matched (holds : Bool)
  | direction (state : FlowState)
  | forward (isForward : Bool)
  /-- A port was set. -/
  | done
  deriving DecidableEq

namespace ContextCall

variable {σ : Type} {cache : Cache σ} {mode : ReadMode} {p : Packet} {ctx : Context}
  {call : ContextCall} {s s' : EvalState σ}

/-- The computation of the call. -/
def perform (cache : Cache σ) : ContextCall → Eval σ CallAnswer
  | evaluate mode c site p => CallAnswer.matched <$> c.evaluate cache mode site p
  | flowState mode p => CallAnswer.direction <$> Eval.flowState cache mode p
  | isForwardFlow p => CallAnswer.forward <$> Eval.isForwardFlow cache p
  | setInPort port => do
    modify fun s => { s with context := { s.context with inPort := port } }
    return .done
  | setOutPort port => do
    modify fun s => { s with context := { s.context with outPort := port } }
    return .done

/-- What the call itself does to the context, the direction of the flow apart. -/
def moved : ContextCall → Context → Context
  | setInPort port, ctx => { ctx with inPort := port }
  | setOutPort port, ctx => { ctx with outPort := port }
  | _, ctx => ctx

/-- The answer of the call once the direction is known. -/
def reply : ContextCall → FlowState → CallAnswer
  | evaluate _ c _ _, state => .matched (if c.flowHolds state then !c.negated else c.negated)
  | flowState _ _, state => .direction state
  | isForwardFlow _, state => .forward (state = .forward)
  | setInPort _, _ | setOutPort _, _ => .done

/-! ## Calls that look for a direction -/

/-- Does the call come to look for the direction of the packet's flow? A condition does
if its clauses are met and it wants a direction. -/
inductive LooksFor (ctx : Context) : ContextCall → ReadMode → Packet → Prop where
  | evaluate {mode : ReadMode} {c : Condition} {site : Attachment} {p : Packet}
      (hclauses : ∀ name, c.Meets site ctx p name) (hwants : c.WantsDirection) :
      LooksFor ctx (.evaluate mode c site p) mode p
  | flowState {mode : ReadMode} {p : Packet} : LooksFor ctx (.flowState mode p) mode p
  | isForwardFlow {p : Packet} : LooksFor ctx (.isForwardFlow p) .blocking p

/-- A call looks for the direction of one packet at most, in one mode. -/
theorem LooksFor.unique {mode' : ReadMode} {p' : Packet} (h : call.LooksFor ctx mode p)
    (h' : call.LooksFor ctx mode' p') : mode = mode' ∧ p = p' := by
  cases h <;> cases h' <;> exact ⟨rfl, rfl⟩

/-- Has the call nothing to do with any direction? -/
def Idle (call : ContextCall) (ctx : Context) : Prop := ∀ mode p, ¬call.LooksFor ctx mode p

theorem idle_evaluate_iff {c : Condition} {site : Attachment} :
    (evaluate mode c site p).Idle ctx ↔
      ¬((∀ name, c.Meets site ctx p name) ∧ c.WantsDirection) := by
  constructor
  · rintro h ⟨hclauses, hwants⟩
    exact h mode p (.evaluate hclauses hwants)
  · rintro h mode' p' ⟨hclauses, hwants⟩
    exact h ⟨hclauses, hwants⟩

/-- A call that looks for the direction answers by it, and fails as the look-up fails. -/
theorem outcome_perform_of_looksFor (h : call.LooksFor s.context mode p)
    {r : Except CacheError FlowState} (hdir : Directed cache mode p s r s') :
    Eval.outcome (call.perform cache) s = (r.map call.reply, s') := by
  cases h with
  | evaluate hclauses hwants =>
    rw [perform, Eval.outcome_map,
      Condition.outcome_evaluate_of_directed (Condition.stateless_iff.mpr hclauses)
        (Condition.needsFlowState_iff.mpr hwants) hdir]
    cases r <;> rfl
  | flowState =>
    rw [perform, Eval.outcome_map, Eval.outcome_flowState_of_directed hdir]
    rfl
  | isForwardFlow =>
    have hflow : Eval.outcome (Eval.flowStateBlocking cache p) s = (r, s') :=
      Eval.outcome_flowState_of_directed hdir
    rw [perform, Eval.outcome_map, Eval.isForwardFlow, Eval.outcome_bind, hflow]
    cases r <;> rfl

/-- Any other call answers whatever the cache is, and leaves cache and log alone. -/
theorem outcome_perform_of_idle (h : call.Idle ctx) :
    ∃ answer, ∀ {τ : Type} (cache : Cache τ) (s : EvalState τ), s.context = ctx →
      Eval.outcome (call.perform cache) s = (.ok answer, { s with context := call.moved ctx }) := by
  cases call with
  | evaluate mode c site p =>
    rw [idle_evaluate_iff, ← Condition.stateless_iff, ← Condition.needsFlowState_iff] at h
    cases hst : c.stateless site ctx p with
    | false =>
      refine ⟨.matched c.negated, fun cache s hctx => ?_⟩
      subst hctx
      rw [perform, Eval.outcome_map, Condition.outcome_evaluate_of_unmet hst]
      rfl
    | true =>
      have hnone : c.needsFlowState = false := by simpa [hst] using h
      refine ⟨.matched !c.negated, fun cache s hctx => ?_⟩
      subst hctx
      rw [perform, Eval.outcome_map, Condition.outcome_evaluate_of_met hst hnone]
      rfl
  | flowState mode p => exact absurd .flowState (h mode p)
  | isForwardFlow p => exact absurd .isForwardFlow (h .blocking p)
  | setInPort port =>
    refine ⟨.done, fun cache s hctx => ?_⟩
    subst hctx
    rw [perform, Eval.outcome_bind, Eval.outcome_modify]
    rfl
  | setOutPort port =>
    refine ⟨.done, fun cache s hctx => ?_⟩
    subst hctx
    rw [perform, Eval.outcome_bind, Eval.outcome_modify]
    rfl

end ContextCall

/-! ## A packet and its reply -/

/-- A request over TCP. -/
def sampleRequest : Packet where
  etherType := some EtherType.ipv4
  source := some ⟨10, 0, 20, 6⟩
  dest := some ⟨10, 0, 11, 34⟩
  protocol := some 6
  tos := some 0
  srcPort := some 4321
  dstPort := some 1234

/-- Its signature. -/
def sampleSig : FlowSig := ⟨.tcp, ⟨10, 0, 20, 6⟩, ⟨10, 0, 11, 34⟩, 4321, 1234⟩

/-- The reply to it. -/
def sampleReply : Packet :=
  { sampleRequest with
    source := sampleRequest.dest
    dest := sampleRequest.source
    srcPort := sampleRequest.dstPort
    dstPort := sampleRequest.srcPort }

end FlowRules
