import FlowRules.Condition.Basic

/-!
# Lints

Conditions that are legal and almost surely not what their author meant : an empty
set of ports, a range that starts after its end, both directions of the flow at once.
`Condition.lints` lists them in a fixed order.
-/

namespace FlowRules

/-- A legal part of a condition that no packet meets. -/
inductive Lint where
  | emptySrcPorts
  | emptyDstPorts
  | bothFlowDirections
  | emptyInPorts
  | emptyOutPorts
  deriving DecidableEq

namespace Lint

/-- The lint in words. -/
def text : Lint → String
  | emptySrcPorts => "tp_src range is empty"
  | emptyDstPorts => "tp_dst range is empty"
  | bothFlowDirections => "both forward and return flow requested"
  | emptyInPorts => "in_port set is empty"
  | emptyOutPorts => "out_port set is empty"

/-- The diagnostic form. -/
def inspect : Lint → String
  | emptySrcPorts => "EmptyTpSrcRange"
  | emptyDstPorts => "EmptyTpDstRange"
  | bothFlowDirections => "BothFlowDirections"
  | emptyInPorts => "EmptyInPorts"
  | emptyOutPorts => "EmptyOutPorts"

end Lint

/-- Is a set configured, and empty? -/
def Clause.wantsNone (c : Clause (KeySet PortId)) : Bool := c.wanted.any Table.isEmpty

/-- The lints of the condition, in order. -/
def Condition.lints (c : Condition) : List Lint :=
  (if c.inPorts.wantsNone then [.emptyInPorts] else []) ++
  (if c.outPorts.wantsNone then [.emptyOutPorts] else []) ++
  (if c.srcPorts.range.isEmpty then [.emptySrcPorts] else []) ++
  (if c.dstPorts.range.isEmpty then [.emptyDstPorts] else []) ++
  (if c.forwardFlow && c.returnFlow then [.bothFlowDirections] else [])

end FlowRules
