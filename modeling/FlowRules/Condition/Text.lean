import FlowRules.Condition.Basic

/-!
# The text of a condition

`Condition.clauses` writes each configured clause as one text, in a fixed order, with
`!` in front if it is inverted. The text of a condition is its clauses between
spaces, or `*` if there are none, and stands in `!(…)` if the conjunction is
inverted.
-/

namespace FlowRules

/-- The mark of an inverted clause. -/
def inversionMark (inverted : Bool) : String := if inverted then "!" else ""

/-- The clause under its name, if it is configured. -/
def Clause.text? {α : Type} (name : String) (value : α → String) (c : Clause α) : Option String :=
  c.wanted.map fun a => inversionMark c.inverted ++ name ++ "=" ++ value a

/-- The clause under its name, unless it is the default. -/
def PortClause.text? (name : String) (c : PortClause) : Option String :=
  if c.isDefault then none else some (inversionMark c.inverted ++ name ++ "=" ++ c.range.text)

/-- Identifiers in brackets, with commas between them. -/
def portSetText (s : KeySet PortId) : String :=
  "[" ++ String.intercalate "," (s.keys.map Id.text) ++ "]"

namespace Condition

/-- The configured clauses in their order. -/
def clauses (c : Condition) : List String :=
  [c.inPorts.text? "in_port" portSetText,
   c.outPorts.text? "out_port" portSetText,
   c.group.text? "port_group" Id.text,
   c.tos.text? "nw_tos" wordText,
   c.protocol.text? "nw_proto" wordText,
   c.source.text? "nw_src" Network.text,
   c.dest.text? "nw_dst" Network.text,
   c.srcPorts.text? "tp_src",
   c.dstPorts.text? "tp_dst",
   if c.forwardFlow then some "fwd_flow" else none,
   if c.returnFlow then some "ret_flow" else none].reduceOption

/-- The conjunction of the clauses. -/
def text (c : Condition) : String :=
  let body := if c.clauses.isEmpty then "*" else String.intercalate " " c.clauses
  if c.negated then "!(" ++ body ++ ")" else body

end Condition

end FlowRules
