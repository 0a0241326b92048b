import FlowRules.Address.Prefix
import FlowRules.Condition.Clause
import FlowRules.Identifier
import FlowRules.Table

/-!
# Conditions

A `Condition` is the conjunction of independent clauses, and the conjunction can be
inverted as a whole. The clauses look at the path of the packet (its ingress and
egress ports, and the groups of the ingress port), at the fields of the packet, and
at the direction of its flow. The default condition holds of every packet.
-/

namespace FlowRules

/-- The conjunction of clauses that a packet is tested against. -/
structure Condition where
  /-- Is the conjunction inverted as a whole? -/
  negated : Bool := false
  inPorts : Clause (KeySet PortId) := {}
  outPorts : Clause (KeySet PortId) := {}
  /-- A group that the ingress port is in. -/
  group : Clause GroupId := {}
  tos : Clause Octet := {}
  protocol : Clause Octet := {}
  source : Clause Network := {}
  dest : Clause Network := {}
  srcPorts : PortClause := {}
  dstPorts : PortClause := {}
  forwardFlow : Bool := false
  returnFlow : Bool := false
  deriving DecidableEq

namespace Condition

/-- The condition that holds of every packet. -/
def matchAny : Condition := {}

/-- Does the condition ask for a direction of the flow? -/
def needsFlowState (c : Condition) : Bool := c.forwardFlow || c.returnFlow

/-- Has the condition no configured clause? Inversion flags of clauses that are not
configured do not count. -/
def isMatchAny (c : Condition) : Bool :=
  !c.negated && c.inPorts.wanted.isNone && c.outPorts.wanted.isNone && c.group.wanted.isNone &&
    c.tos.wanted.isNone && c.protocol.wanted.isNone && c.source.wanted.isNone &&
    c.dest.wanted.isNone && c.srcPorts.isDefault && c.dstPorts.isDefault && !c.needsFlowState

end Condition

end FlowRules
