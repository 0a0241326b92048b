import FlowRules.Condition.Basic
import FlowRules.Eval.Context

/-!
# Matching a packet

`Condition.stateless` tests the clauses that look at the context and the packet alone.
`Condition.evaluateBlocking` asks for the direction of the flow only if these hold and
the condition wants a direction; the result is inverted as a whole if the condition says
so, and a failure of the cache is not. `Condition.evaluateAsync` asks in the same case,
by the search that may be suspended.

A condition can be attached to a port as its filter. The packet then leaves through
that port, so a configured clause about egress ports looks at no port at all and has
its inversion flag as its value.
-/

namespace FlowRules

/-- Where a condition is attached. -/
inductive Attachment where
  | element
  | portFilter
  deriving DecidableEq

namespace Condition

/-- Does the packet meet the clause about ingress ports? -/
def inPortsHold (c : Condition) (ctx : Context) : Bool :=
  c.inPorts.holds fun ports => ctx.inPort.any ports.contains

/-- Does the packet meet the clause about egress ports? -/
def outPortsHold (c : Condition) (site : Attachment) (ctx : Context) : Bool :=
  c.outPorts.holds fun ports =>
    match site with
    | .element => ctx.outPort.any ports.contains
    | .portFilter => false

/-- Does an address, if known, belong to the network? Every packet is in a network
of prefix length zero. -/
def inNetwork (net : Network) (ip : Option Ipv4) : Bool :=
  net.len.val = 0 || ip.any net.contains

/-- Do the clauses hold that look at the context and the packet alone? -/
def stateless (c : Condition) (site : Attachment) (ctx : Context) (p : Packet) : Bool :=
  c.inPortsHold ctx && c.outPortsHold site ctx &&
    c.group.holds ctx.groups.contains &&
    c.tos.holds (fun tos => p.tos = some tos) &&
    c.protocol.holds (fun protocol => p.protocol = some protocol) &&
    c.source.holds (inNetwork · p.source) &&
    c.dest.holds (inNetwork · p.dest) &&
    c.srcPorts.holds p.srcPort &&
    c.dstPorts.holds p.dstPort

/-- Does the direction of the flow agree with what the condition wants? -/
def flowHolds (c : Condition) (state : FlowState) : Bool :=
  (!c.forwardFlow || state = .forward) && (!c.returnFlow || state = .returning)

/-- Does the packet match the condition? If the direction is asked for, the read blocks. -/
def evaluateBlocking {σ : Type} (cache : Cache σ) (c : Condition) (site : Attachment)
    (p : Packet) : Eval σ Bool := do
  let ctx := (← get).context
  if !c.stateless site ctx p then return c.negated
  if c.needsFlowState then
    let state ← Eval.flowStateBlocking cache p
    if !c.flowHolds state then return c.negated
  return !c.negated

/-- Does the packet match the condition? If the direction is asked for, the read does not
block. -/
def evaluateAsync {σ : Type} (cache : Cache σ) (c : Condition) (site : Attachment)
    (p : Packet) : AsyncEval σ Bool := do
  let ctx := (← AsyncEval.now get).context
  if !c.stateless site ctx p then return c.negated
  if c.needsFlowState then
    let state ← Eval.flowStateAsync cache p
    if !c.flowHolds state then return c.negated
  return !c.negated

/-- Does the packet match the condition, by the computation of the mode, which is brought to
its end? -/
def evaluate {σ : Type} (cache : Cache σ) (mode : ReadMode) (c : Condition) (site : Attachment)
    (p : Packet) : Eval σ Bool :=
  match mode with
  | .blocking => c.evaluateBlocking cache site p
  | .async => (c.evaluateAsync cache site p).complete

end Condition

end FlowRules
